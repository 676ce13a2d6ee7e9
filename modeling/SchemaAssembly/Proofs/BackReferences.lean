import Mathlib.Logic.Relation
import SchemaAssembly.Proofs.GraphTypes

/-!
# Placeholders are the back references

A placeholder is left where a type is referred to that is still in progress. That is a fact about a
moment of the run. In the finished graph it becomes a fact about the graph alone: a reference is left
as a placeholder exactly if it leads back, to a type from which finished occurrences lead to the type
that makes the reference. So no circle runs through finished occurrences only, and a reference is
cut only where it would have closed one.

## Main definitions

* `SchemaAssembly.NamedType.Holds` — a type refers to another by a finished occurrence.
* `SchemaAssembly.TypeGraph.Leads` — the same in a graph, by name.
* `SchemaAssembly.Caches.Returning` — what kept types only name is in progress, or leads back.

## Main results

* `SchemaAssembly.Run.holds_of_new` — what a run keeps is held, in steps, by what it returns.
* `SchemaAssembly.Run.returning` — along a run, placeholders lead back.
* `SchemaAssembly.TypeGraph.Finished.not_transGen_leads` — finished occurrences run in no circle.
* `SchemaAssembly.isPlaceholder_iff_of_assemble` — in an assembled graph placeholders are exactly
  the back references.
-/

set_option relaxedAutoImplicit false
set_option autoImplicit false

namespace SchemaAssembly

open Relation

variable {B : Behaviours} {registry : Registry} {wiring : Wiring B}

/-! ## Types that hold others -/

/-- A type refers to another by a finished occurrence. -/
def NamedType.Holds (type held : GraphType B) : Prop :=
  ∃ occurrence ∈ type.references, occurrence.held? = some held

/-- What a placed reference holds is held by the type. -/
theorem NamedType.holds_of_placed {type held : GraphType B} {link : Place × Occurrence B}
    (made : link ∈ type.placed) (h : link.2.held? = some held) : type.Holds held := by
  refine ⟨link.2, ?_, h⟩
  rw [← NamedType.map_snd_placed]
  exact List.mem_map_of_mem made

/-- A reference of a type stands at some place. -/
theorem NamedType.exists_placed {type : GraphType B} {occurrence : Occurrence B}
    (made : occurrence ∈ type.references) : ∃ place, (place, occurrence) ∈ type.placed := by
  rw [← NamedType.map_snd_placed] at made
  obtain ⟨⟨place, other⟩, h, rfl⟩ := List.mem_map.1 made
  exact ⟨place, h⟩

/-- What a type holds is smaller than the type. -/
theorem NamedType.Holds.sizeOf_lt {type held : GraphType B} (holds : type.Holds held) :
    sizeOf held < sizeOf type := by
  obtain ⟨occurrence, made, h⟩ := holds
  have inner := Occurrence.sizeOf_held?_lt h
  have part := List.sizeOf_lt_of_mem made
  have whole := type.sizeOf_references_lt
  omega

/-! ## Placeholders along a run -/

/-- A run leaves placeholders for nothing but what is in progress. -/
theorem Run.mem_inProgress_of_named {inProgress : List String} {agenda : List Demand}
    {caches last : Caches B} {links : List (Place × Occurrence B)}
    (run : Run registry wiring inProgress agenda caches links last) :
    ∀ link ∈ links, link.2.held? = none → link.2.innermost ∈ inProgress := by
  induction run with
  | done => simp
  | passed onward ih => exact ih
  | kept found kept onward ih =>
    rintro link (_ | ⟨_, h⟩) named
    · rw [Occurrence.held?_wrap] at named
      cases named
    · exact ih link h named
  | begun found absent placed begun onward ih =>
    rintro link (_ | ⟨_, h⟩) named
    · rw [Occurrence.innermost_wrap]
      exact begun
    · exact ih link h named
  | built found absent placed idle made parts onward ihParts ih =>
    rintro link (_ | ⟨_, h⟩) named
    · rw [Occurrence.held?_wrap] at named
      cases named
    · exact ih link h named

/-- **What a run keeps is held, in steps, by what the run returns**: every type that is kept at the
end was kept at the start, or finished occurrences lead to it from a type that a link holds.

**Proof sketch.** By induction on the run. Keeping a type adds the type itself, which the link
returned for it holds, and what was kept while its parts were built; those are led to from its own
references. -/
theorem Run.holds_of_new {inProgress : List String} {agenda : List Demand}
    {caches last : Caches B} {links : List (Place × Occurrence B)}
    (run : Run registry wiring inProgress agenda caches links last)
    {place : Place} {name : String} {type : GraphType B}
    (kept : last.find? place name = some type) :
    caches.find? place name = some type ∨
      ∃ link ∈ links, ∃ held, link.2.held? = some held ∧
        ReflTransGen NamedType.Holds held type := by
  induction run with
  | done => exact .inl kept
  | passed onward ih => exact ih kept
  | kept found kept' onward ih =>
    refine (ih kept).imp_right ?_
    rintro ⟨link, h, held, hh, path⟩
    exact ⟨link, .tail _ h, held, hh, path⟩
  | begun found absent placed begun onward ih =>
    refine (ih kept).imp_right ?_
    rintro ⟨link, h, held, hh, path⟩
    exact ⟨link, .tail _ h, held, hh, path⟩
  | @built _ reference _ _ _ _ _ _ built found absent placed idle made parts onward ihParts ih =>
    have first : ((Occurrence.concrete built).wrap reference.type.wrappers).held? = some built :=
      Occurrence.held?_wrap (.concrete built) _
    obtain between | ⟨link, h, held, hh, path⟩ := ih kept
    · rw [Caches.find?_keep] at between
      split at between
      · obtain rfl := Option.some.inj between
        exact .inr ⟨_, .head _, built, first, .refl⟩
      · obtain before | ⟨link, h, held, hh, path⟩ := ihParts between
        · exact .inl before
        · have step := NamedType.holds_of_placed h hh
          exact .inr ⟨_, .head _, built, first, path.head step⟩
    · exact .inr ⟨link, .tail _ h, held, hh, path⟩

/-- **What the types kept only name leads back to them**, or is still in progress. -/
def Caches.Returning (inProgress : List String) (caches : Caches B) : Prop :=
  ∀ place name type, caches.find? place name = some type →
    ∀ occurrence ∈ type.references, occurrence.held? = none →
      occurrence.innermost ∈ inProgress ∨
        ∃ other target, caches.find? other occurrence.innermost = some target ∧
          ReflTransGen NamedType.Holds target type

/-- Finishing a type turns what awaited it into what it leads to: if what its parts left is
returning while it is in progress, then so are the caches that keep it. -/
theorem Caches.Returning.keep {inProgress : List String} {caches between : Caches B}
    {built : GraphType B} (before : caches.Returning inProgress) (idle : built.name ∉ inProgress)
    (new : ¬ caches.Holds built.name)
    (sound : between.Sound registry (built.name :: inProgress))
    (returning : between.Returning (built.name :: inProgress))
    {agenda : List Demand}
    (parts : Run registry wiring (built.name :: inProgress) agenda caches built.placed between) :
    (between.keep built).Returning inProgress := by
  obtain ⟨home, admits⟩ := Place.exists_admits built.kind
  have own : (between.keep built).find? home built.name = some built := by
    rw [find?_keep, if_pos ⟨rfl, admits⟩]
  intro place name type kept occurrence made named
  rw [find?_keep] at kept
  split at kept
  · -- The type just finished: what it only names is itself, or was in progress before it.
    obtain rfl := Option.some.inj kept
    obtain ⟨place', made'⟩ := NamedType.exists_placed made
    obtain h | h := List.mem_cons.1 (parts.mem_inProgress_of_named _ made' named)
    · exact .inr ⟨home, built, h ▸ own, .refl⟩
    · exact .inl h
  · obtain h | ⟨other, target, kept', path⟩ := returning place name type kept occurrence made named
    · obtain h | h := List.mem_cons.1 h
      · -- What awaits the type just finished was kept while its parts were built.
        obtain old | ⟨link, hl, held, hh, path⟩ := parts.holds_of_new kept
        · obtain h' | ⟨other, target, kept', -⟩ := before place name type old occurrence made named
          · exact absurd (h ▸ h') idle
          · exact absurd ⟨other, target, h ▸ kept'⟩ new
        · have step := NamedType.holds_of_placed hl hh
          exact .inr ⟨home, built, h ▸ own, path.head step⟩
      · exact .inl h
    · exact .inr ⟨other, target, sound.within_keep _ _ _ kept', path⟩

/-- **Along a run, placeholders lead back.** -/
theorem Run.returning (keyed : registry.Keyed) (wired : wiring.Keyed)
    {inProgress : List String} {agenda : List Demand} {caches last : Caches B}
    {links : List (Place × Occurrence B)}
    (run : Run registry wiring inProgress agenda caches links last)
    (sound : caches.Sound registry inProgress) (returning : caches.Returning inProgress) :
    last.Returning inProgress := by
  induction run with
  | done => exact returning
  | passed onward ih => exact ih sound returning
  | kept found kept onward ih => exact ih sound returning
  | begun found absent placed begun onward ih => exact ih sound returning
  | @built inProgress _ _ caches _ _ _ _ _ found absent placed idle made parts onward ihParts ih =>
    obtain ⟨new, start, between, own, finished⟩ :=
      sound.built keyed wired found absent placed idle made parts
    have begun := ihParts start fun place name type kept occurrence made named =>
      (returning place name type kept occurrence made named).imp_left (.tail _)
    rw [← own] at idle new between begun parts
    exact ih finished (returning.keep idle new between begun parts)

/-! ## Graphs -/

namespace TypeGraph

/-- **A name of a graph leads to another by a finished occurrence**: one that the type of that name
makes, with the other name at the bottom. -/
def Leads (graph : TypeGraph B) (name other : String) : Prop :=
  ∃ type, graph.type? name = some type ∧
    ∃ occurrence ∈ type.references, occurrence.isPlaceholder = false ∧
      occurrence.innermost = other

namespace Finished

variable {graph : TypeGraph B} {caches : Caches B} (finished : graph.Finished registry caches)

include finished

/-- What a type of the graph holds is the type of the graph under that name. -/
theorem type?_of_held? {type held : GraphType B} (h : type ∈ graph.types.values)
    {occurrence : Occurrence B} (made : occurrence ∈ type.references)
    (hh : occurrence.held? = some held) : graph.type? held.name = some held := by
  obtain ⟨place, placed⟩ := NamedType.exists_placed made
  obtain ⟨target, found, -, -, same⟩ := finished.exists_target h placed
  rw [same held hh]
  rw [target?, ← Occurrence.name_of_held? hh, same held hh] at found
  exact found

/-- Where one name leads to another, the types of both are in the graph, the other one smaller. -/
theorem sizeOf_lt_of_leads {name other : String} (leads : graph.Leads name other) :
    ∃ type target, graph.type? name = some type ∧ graph.type? other = some target ∧
      sizeOf target < sizeOf type := by
  obtain ⟨type, found, occurrence, made, concrete, rfl⟩ := leads
  obtain ⟨held, hh⟩ : ∃ held, occurrence.held? = some held := by
    refine Option.ne_none_iff_exists'.1 fun named => ?_
    rw [Occurrence.held?_eq_none_iff, concrete] at named
    cases named
  have target := finished.type?_of_held? (finished.mem_values_of_type? found).1 made hh
  rw [Occurrence.name_of_held? hh] at target
  exact ⟨type, held, found, target, NamedType.Holds.sizeOf_lt ⟨occurrence, made, hh⟩⟩

/-- **Finished occurrences run in no circle**, since each leads to a smaller type. -/
theorem not_transGen_leads (name : String) : ¬ TransGen graph.Leads name name := by
  have smaller : ∀ other, TransGen graph.Leads name other →
      ∃ type target, graph.type? name = some type ∧ graph.type? other = some target ∧
        sizeOf target < sizeOf type := by
    intro other path
    induction path with
    | single leads => exact finished.sizeOf_lt_of_leads leads
    | tail path leads ih =>
      obtain ⟨type, between, found, hb, lt⟩ := ih
      obtain ⟨between', target, hb', ht, lt'⟩ := finished.sizeOf_lt_of_leads leads
      obtain rfl : between = between' := Option.some.inj (hb.symm.trans hb')
      exact ⟨type, target, found, ht, Nat.lt_trans lt' lt⟩
  intro circle
  obtain ⟨type, target, found, found', lt⟩ := smaller name circle
  obtain rfl : type = target := Option.some.inj (found.symm.trans found')
  exact Nat.lt_irrefl _ lt

/-- Where finished occurrences lead from one type of the graph to another, the name of the one leads
to the name of the other. -/
theorem leads_of_holds {type target : GraphType B} (h : graph.type? type.name = some type)
    (path : ReflTransGen NamedType.Holds type target) :
    graph.type? target.name = some target ∧
      ReflTransGen graph.Leads type.name target.name := by
  induction path with
  | refl => exact ⟨h, .refl⟩
  | tail path holds ih =>
    obtain ⟨found, leads⟩ := ih
    obtain ⟨occurrence, made, hh⟩ := holds
    refine ⟨finished.type?_of_held? (finished.mem_values_of_type? found).1 made hh, ?_⟩
    refine leads.tail ⟨_, found, occurrence, made, ?_, (Occurrence.name_of_held? hh).symm⟩
    rw [Bool.eq_false_iff, ne_eq, ← Occurrence.held?_eq_none_iff, hh]
    simp

/-- **In a finished graph whose placeholders lead back, a reference is a placeholder exactly if its
target leads to the type that makes it.** -/
theorem isPlaceholder_iff (returning : caches.Returning []) {type : GraphType B}
    (h : type ∈ graph.types.values) {occurrence : Occurrence B}
    (made : occurrence ∈ type.references) :
    occurrence.isPlaceholder = true ↔
      ReflTransGen graph.Leads occurrence.innermost type.name := by
  have found := finished.type?_of_mem h
  constructor
  · intro named
    rw [← Occurrence.held?_eq_none_iff] at named
    obtain ⟨place, kept⟩ := finished.exists_find? found
    obtain begun | ⟨other, target, kept', path⟩ :=
      returning place type.name type kept occurrence made named
    · cases begun
    · have own := finished.sound.keyed _ _ _ kept'
      rw [← own] at kept' ⊢
      exact (finished.leads_of_holds (finished.agrees _ _ _ kept') path).2
  · intro back
    cases concrete : occurrence.isPlaceholder with
    | true => rfl
    | false =>
      have leads : graph.Leads type.name occurrence.innermost :=
        ⟨type, found, occurrence, made, concrete, rfl⟩
      exact absurd (.head' leads back) (finished.not_transGen_leads type.name)

end Finished

end TypeGraph

/-! ## Assembled graphs -/

/-- In a graph that was assembled, placeholders lead back. -/
theorem returning_of_assemble (keyed : registry.Keyed) (wired : wiring.Keyed)
    {graph : TypeGraph B} (ok : assemble registry wiring = .ok graph) :
    ∃ last, graph.Finished registry last ∧ last.Returning [] := by
  obtain ⟨schema, query, last, -, bound, built⟩ := buildRoots_of_assemble ok
  obtain ⟨run, finished, -⟩ := finished_of_buildRoots keyed wired bound built
  have start : (Caches.empty : Caches B).Returning [] := fun _ _ _ kept => by simp at kept
  exact ⟨last, finished,
    run.returning keyed wired (Caches.sound_empty registry []) start⟩

/-- **In an assembled graph placeholders are exactly the back references.** A reference of a type is
a placeholder if and only if finished occurrences lead, in zero or more steps, from what it names
back to the type. So finished occurrences run in no circle; and a reference that could be finished
without closing a circle is finished.

**Proof sketch.** What is left as a placeholder is in progress then, and what is kept while a type is
in progress is held, in steps, by that type once it is finished (`Run.returning`). The other way
round, a finished occurrence holds a smaller type (`TypeGraph.Finished.not_transGen_leads`). -/
theorem isPlaceholder_iff_of_assemble (keyed : registry.Keyed) (wired : wiring.Keyed)
    {graph : TypeGraph B} (ok : assemble registry wiring = .ok graph) :
    (∀ type ∈ graph.types.values, ∀ occurrence ∈ type.references,
      (occurrence.isPlaceholder = true ↔
        ReflTransGen graph.Leads occurrence.innermost type.name)) ∧
    (∀ name, ¬ TransGen graph.Leads name name) ∧
    ∀ type ∈ graph.types.values, ∀ occurrence ∈ type.references,
      ¬ TransGen (fun name other => graph.Leads name other ∨
          name = type.name ∧ other = occurrence.innermost) type.name type.name →
        occurrence.isPlaceholder = false := by
  obtain ⟨last, finished, returning⟩ := returning_of_assemble keyed wired ok
  refine ⟨fun type h occurrence made => finished.isPlaceholder_iff returning h made,
    finished.not_transGen_leads, fun type h occurrence made opens => ?_⟩
  cases named : occurrence.isPlaceholder with
  | false => rfl
  | true =>
    rw [finished.isPlaceholder_iff returning h made] at named
    refine absurd (TransGen.head' (.inr ⟨rfl, rfl⟩) ?_) opens
    exact ReflTransGen.mono (fun _ _ leads => .inl leads) _ _ named

/-- The roots of the blog. -/
def blogSchema : SchemaDefinition := ⟨[⟨.query, "Query", ⟨1, 10⟩⟩], ⟨1, 1⟩⟩

/-- Authors refer to their posts, and posts to their author. -/
def blogDefinitions : List Definition := [
  .schema blogSchema,
  .type ⟨"Query", none, ⟨2, 1⟩, .object
    [⟨"author", none, [], .ofName "Author", ⟨2, 14⟩⟩,
      ⟨"latest", none, [], .ofName "Post", ⟨2, 30⟩⟩] []⟩,
  .type ⟨"Author", none, ⟨3, 1⟩, .object
    [⟨"posts", none, [], .listOf (.ofName "Post"), ⟨3, 15⟩⟩] []⟩,
  .type ⟨"Post", none, ⟨4, 1⟩, .object
    [⟨"author", none, [], .named "Author" true, ⟨4, 13⟩⟩] []⟩]

/-- The registry of the blog. -/
def blog : Registry := (Registry.empty.addAll blogDefinitions).1

/-- The blog is keyed. -/
theorem keyed_blog : blog.Keyed := Registry.keyed_empty.addAll blogDefinitions

/-- Authors lead to posts by a finished occurrence, and posts do not lead to authors: the reference
of a post to its author is left as a placeholder, even though posts are referred to again from a
place where no author is in progress. -/
theorem isPlaceholder_iff_of_assemble_blog :
    blog.Keyed ∧ plainWiring.Keyed ∧ ∃ graph, assemble blog plainWiring = .ok graph ∧
      graph.outline = [("Query", [("Author", false), ("Post", false)]),
        ("Author", [("Post", false)]), ("Post", [("Author", true)])] ∧
      ReflTransGen graph.Leads "Author" "Post" ∧ ¬ ReflTransGen graph.Leads "Post" "Author" := by
  have listed : (assemble blog plainWiring).toOption.map TypeGraph.outline =
      some [("Query", [("Author", false), ("Post", false)]), ("Author", [("Post", false)]),
        ("Post", [("Author", true)])] := by decide +kernel
  obtain ⟨graph, ok, outline⟩ := exists_eq_ok_of_view listed
  obtain ⟨exactly, -, -⟩ := isPlaceholder_iff_of_assemble keyed_blog keyed_plainWiring ok
  -- What the outline says of a reference decides whether it leads back.
  have decided : ∀ entry ∈ graph.outline, ∀ reference ∈ entry.2,
      (reference.2 = true ↔ ReflTransGen graph.Leads reference.1 entry.1) := by
    intro entry listed' reference h
    obtain ⟨type, ht, rfl⟩ := List.mem_map.1 listed'
    obtain ⟨occurrence, made, rfl⟩ := List.mem_map.1 h
    exact exactly type ht occurrence made
  rw [outline] at decided
  have cut := decided ("Post", [("Author", true)]) (by simp) ("Author", true) (by simp)
  have whole := decided ("Author", [("Post", false)]) (by simp) ("Post", false) (by simp)
  exact ⟨keyed_blog, keyed_plainWiring, graph, ok, outline, cut.1 rfl,
    fun back => Bool.false_ne_true (whole.2 back)⟩

end SchemaAssembly
