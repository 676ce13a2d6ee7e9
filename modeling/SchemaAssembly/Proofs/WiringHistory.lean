import Mathlib.Tactic.Tauto
import SchemaAssembly.Proofs.Bindings
import SchemaAssembly.Proofs.Folding
import SchemaAssembly.Proofs.WiredScalars

/-!
# What a wiring remembers of the calls that made it

A wiring is made by calls, and the wiring of one type by calls of its own: fetchers are given for it one
by one or many at once, it is given a resolver, and it is named, perhaps more than once. There are three
levels at which something may be replaced: within a type, where a later fetcher of a field replaces an
earlier one; across the wirings of one type, which are merged; and for resolvers, where a wiring that has
none leaves the one before in place. What is found in the end can nevertheless be said in one way for all
levels. Write down, call by call, all that was given for a type, under the name that it has in the end;
then it is the last entry that counts.

It follows that calls which concern different names may change places.

## Main definitions

* `SchemaAssembly.DraftStep` — a call on the wiring of one type; `SchemaAssembly.TypeWiringDraft.ofSteps`.
* `SchemaAssembly.WiringCall` — a call on a wiring, with all that goes into it;
  `SchemaAssembly.Wiring.ofCalls` — the wiring that calls make, if every type in them is named.
* `SchemaAssembly.WiringCall.fetchers`, `resolvers`, `scalars`, `factories` — what a call gives.
* `SchemaAssembly.WiringCall.subject` — what a call concerns.
* `SchemaAssembly.Wiring.Remembers` — what is found in a wiring, said of the calls that made it.
* `SchemaAssembly.Wiring.SameLookups` — two wirings in which the same is found.

## Main results

* `SchemaAssembly.TypeWiringDraft.ofSteps_eq` — the draft that calls make.
* `SchemaAssembly.Wiring.last_foldl_after` — where each step puts what it gives before what was found,
  the last that was given is found.
* `SchemaAssembly.Wiring.exists_ofCalls_iff` — calls make a wiring exactly if every type is named.
* `SchemaAssembly.Wiring.found_ofCalls` — what is found in a wiring, and that calls on different subjects
  may change places.
-/

set_option relaxedAutoImplicit false
set_option autoImplicit false

namespace SchemaAssembly

variable {B : Behaviours}

/-! ## Maps extended in two goes -/

namespace NameMap

variable {α : Type}

/-- A map extended twice is extended by both lists together. -/
theorem extend_append (m : NameMap α) (first second : List (String × α)) :
    m.extend (first ++ second) = (m.extend first).extend second :=
  NameMap.ext (List.foldl_append ..)

/-- The names of a map that was extended: first those that it had, then the new ones in the order in which
they come first. -/
theorem names_extend (m : NameMap α) (added : List (String × α)) :
    (m.extend added).names =
      m.names ++ (Entries.names added).eraseDups.filter (· ∉ m.names) :=
  Entries.names_setAll m.entries added

/-- In the map of a list of entries the last entry of a name is found. -/
theorem get?_ofList (added : List (String × α)) (name : String) :
    (ofList added).get? name = added.reverse.lookup name :=
  Entries.lookup_ofList added name

/-- It makes no difference whether a map is extended by a list of entries or by the map of that list. -/
theorem extend_entries_ofList (m : NameMap α) (added : List (String × α)) :
    m.extend (ofList added).entries = m.extend added := by
  refine ext_get? ?_ fun name => ?_
  · have once : (Entries.names (Entries.ofList added)).eraseDups = (Entries.names added).eraseDups := by
      rw [Entries.eraseDups_names_of_nodup (Entries.nodup_ofList added), Entries.names_ofList]
    rw [names_extend, names_extend]
    exact congrArg (fun new => m.names ++ new.filter (· ∉ m.names)) once
  · rw [get?_extend_entries, get?_extend, get?_ofList]

end NameMap

/-! ## The wiring of one type -/

/-- One call on the wiring of a type. -/
inductive DraftStep (B : Behaviours)
  /-- Names the type. -/
  | name (name : String)
  /-- Gives a fetcher for a field. -/
  | fetcher (field : String) (fetcher : B.Fetcher)
  /-- Gives fetchers for many fields. -/
  | fetchers (many : NameMap B.Fetcher)
  /-- Gives a resolver. -/
  | resolver (resolver : B.Resolver)

namespace DraftStep

/-- The names that a call gives to the type. -/
def names : DraftStep B → List String
  | .name given => [given]
  | .fetcher .. | .fetchers _ | .resolver _ => []

/-- The fetchers that a call gives, by field name and in order. -/
def given : DraftStep B → List (String × B.Fetcher)
  | .fetcher field bound => [(field, bound)]
  | .fetchers many => many.entries
  | .name _ | .resolver _ => []

/-- The resolvers that a call gives. -/
def resolvers : DraftStep B → List B.Resolver
  | .resolver bound => [bound]
  | .name _ | .fetcher .. | .fetchers _ => []

/-- **The name that a type has in the end**: the last one given. -/
def finalName? (steps : List (DraftStep B)) : Option String := (steps.flatMap names).getLast?

end DraftStep

namespace TypeWiringDraft

/-- What a draft is after one more call. -/
def after (draft : TypeWiringDraft B) : DraftStep B → TypeWiringDraft B
  | .name name => draft.named name
  | .fetcher field fetcher => draft.withFetcher field fetcher
  | .fetchers many => draft.withFetchers many
  | .resolver resolver => draft.withResolver resolver

/-- The draft that calls make, beginning with the empty one. -/
def ofSteps (steps : List (DraftStep B)) : TypeWiringDraft B := steps.foldl after empty

/-- A call puts what it gives before what was given so far. -/
theorem after_eq (draft : TypeWiringDraft B) (step : DraftStep B) :
    draft.after step = ⟨step.names.getLast?.or draft.typeName, draft.fetchers.extend step.given,
      step.resolvers.getLast?.or draft.resolver⟩ := by
  cases step <;> rfl

/-- **The draft that calls make** has the last name given, all fetchers given, one after the other, and the
last resolver given.

**Proof sketch.** By induction on the calls, from any draft that they begin with. -/
theorem ofSteps_eq (steps : List (DraftStep B)) :
    ofSteps steps = ⟨DraftStep.finalName? steps, .ofList (steps.flatMap DraftStep.given),
      (steps.flatMap DraftStep.resolvers).getLast?⟩ := by
  have later : ∀ draft : TypeWiringDraft B, steps.foldl after draft =
      ⟨(steps.flatMap DraftStep.names).getLast?.or draft.typeName,
        draft.fetchers.extend (steps.flatMap DraftStep.given),
        (steps.flatMap DraftStep.resolvers).getLast?.or draft.resolver⟩ := by
    induction steps with
    | nil => exact fun draft => rfl
    | cons step rest ih =>
      intro draft
      rw [List.foldl_cons, ih, after_eq, List.flatMap_cons, List.flatMap_cons, List.flatMap_cons,
        NameMap.extend_append, List.getLast?_append, List.getLast?_append, Option.or_assoc,
        Option.or_assoc]
  rw [ofSteps, later, empty, Option.or_none, Option.or_none]
  rfl

/-- A draft can be finished exactly if a name was given. -/
theorem finish_ofSteps (steps : List (DraftStep B)) :
    (ofSteps steps).finish = match DraftStep.finalName? steps with
      | some name => .ok ⟨name, .ofList (steps.flatMap DraftStep.given),
          (steps.flatMap DraftStep.resolvers).getLast?⟩
      | none => .error .missingTypeName := by
  rw [ofSteps_eq]
  rfl

end TypeWiringDraft

/-! ## The wiring of a schema -/

/-- One call on a wiring, with all that goes into it. -/
inductive WiringCall (B : Behaviours)
  /-- Sets the factory. -/
  | factory (factory : WiringFactory B)
  /-- Registers a scalar under its name. -/
  | scalar (scalar : ScalarType B)
  /-- Adds the wiring of a type, which calls of its own make. -/
  | type (steps : List (DraftStep B))

/-- What a call concerns. -/
inductive WiringSubject
  /-- The factory. -/
  | factory
  /-- A scalar, by its name. -/
  | scalar (name : String)
  /-- A type, by the name that it has in the end. -/
  | type (name : Option String)
deriving DecidableEq, Repr

namespace WiringCall

/-- What a call does, once all that goes into it is finished. -/
def finish : WiringCall B → Except TypeWiringError (WiringStep B)
  | .factory asked => .ok (.factory asked)
  | .scalar added => .ok (.scalar added)
  | .type steps => (TypeWiringDraft.ofSteps steps).finish.map .type

/-- What a call concerns. -/
def subject : WiringCall B → WiringSubject
  | .factory _ => .factory
  | .scalar added => .scalar added.name
  | .type steps => .type (DraftStep.finalName? steps)

/-- The fetchers that a call gives for a type, by field name and in order. -/
def fetchers (type : String) : WiringCall B → List (String × B.Fetcher)
  | .type steps =>
    if DraftStep.finalName? steps = some type then steps.flatMap DraftStep.given else []
  | .factory _ | .scalar _ => []

/-- The resolvers that a call gives for a type, in order. -/
def resolvers (type : String) : WiringCall B → List B.Resolver
  | .type steps =>
    if DraftStep.finalName? steps = some type then steps.flatMap DraftStep.resolvers else []
  | .factory _ | .scalar _ => []

/-- The scalars that a call registers under a name. -/
def scalars (name : String) : WiringCall B → List (ScalarType B)
  | .scalar added => if added.name = name then [added] else []
  | .factory _ | .type _ => []

/-- The factories that a call sets. -/
def factories : WiringCall B → List (WiringFactory B)
  | .factory asked => [asked]
  | .scalar _ | .type _ => []

end WiringCall

namespace Wiring

/-- What a wiring is after one more call, if all that goes into the call can be finished. -/
def afterCall (wiring : Wiring B) (call : WiringCall B) : Except TypeWiringError (Wiring B) :=
  call.finish.map wiring.after

/-- **The wiring that calls make**, beginning with that of the standard scalars. A type that is not named
stops them. -/
def ofCalls (calls : List (WiringCall B)) : Except TypeWiringError (Wiring B) :=
  calls.foldlM afterCall (.standard B)

/-! ### One call -/

/-- The fetchers of a type just added join those wired for it, and those of other types stay. -/
theorem fetchersOf_withType (wiring : Wiring B) (added : TypeWiring B) (type : String) :
    (wiring.withType added).fetchersOf type =
      if type = added.typeName then (wiring.fetchersOf type).extend added.fetchers.entries
      else wiring.fetchersOf type := by
  unfold fetchersOf withType NameMap.update
  by_cases own : type = added.typeName <;> simp [own]

section Step

variable {wiring next : Wiring B} {call : WiringCall B}

/-- A call fails exactly if it adds a type without a name. -/
theorem exists_afterCall_iff (wiring : Wiring B) (call : WiringCall B) :
    (∃ next, wiring.afterCall call = .ok next) ↔ call.subject ≠ .type none := by
  cases call with
  | factory | scalar => simp [afterCall, WiringCall.finish, WiringCall.subject, Except.map]
  | type steps =>
    cases named : DraftStep.finalName? steps <;>
      simp [afterCall, WiringCall.finish, TypeWiringDraft.finish_ofSteps, WiringCall.subject, named,
        Except.map]

/-- A call that adds a type adds it under the name that it has in the end. -/
theorem afterCall_type_eq_ok {steps : List (DraftStep B)}
    (ok : wiring.afterCall (.type steps) = .ok next) :
    ∃ name, DraftStep.finalName? steps = some name ∧
      next = wiring.withType ⟨name, .ofList (steps.flatMap DraftStep.given),
        (steps.flatMap DraftStep.resolvers).getLast?⟩ := by
  rw [afterCall, WiringCall.finish, TypeWiringDraft.finish_ofSteps] at ok
  cases named : DraftStep.finalName? steps with
  | none =>
    rw [named] at ok
    cases ok
  | some name =>
    rw [named] at ok
    exact ⟨name, rfl, (Except.ok.inj ok).symm⟩

variable (ok : wiring.afterCall call = .ok next)

include ok

/-- The fetchers of a type are extended by those that a call gives for it. -/
theorem fetchersOf_afterCall (type : String) :
    next.fetchersOf type = (wiring.fetchersOf type).extend (call.fetchers type) := by
  cases call with
  | factory | scalar =>
    obtain rfl := Except.ok.inj ok
    rfl
  | type steps =>
    obtain ⟨name, named, rfl⟩ := afterCall_type_eq_ok ok
    rw [WiringCall.fetchers, named, fetchersOf_withType]
    by_cases own : type = name
    · rw [if_pos own, if_pos (own ▸ rfl), NameMap.extend_entries_ofList]
    · rw [if_neg own, if_neg fun same => own (Option.some.inj same).symm]
      rfl

/-- The last resolver that a call gives for a type comes before what was wired. -/
theorem resolver?_afterCall (type : String) :
    next.resolver? type = (call.resolvers type).getLast?.or (wiring.resolver? type) := by
  cases call with
  | factory | scalar =>
    obtain rfl := Except.ok.inj ok
    rfl
  | type steps =>
    obtain ⟨name, named, rfl⟩ := afterCall_type_eq_ok ok
    rw [resolver?_withType, WiringCall.resolvers, named]
    by_cases own : type = name
    · rw [if_pos own, if_pos (own ▸ rfl)]
    · rw [if_neg own, if_neg fun same => own (Option.some.inj same).symm]
      rfl

/-- The scalar that a call registers under a name comes before what was wired. -/
theorem scalar?_afterCall (name : String) :
    next.scalar? name = (call.scalars name).getLast?.or (wiring.scalar? name) := by
  cases call with
  | factory =>
    obtain rfl := Except.ok.inj ok
    rfl
  | scalar added =>
    obtain rfl := Except.ok.inj ok
    rw [after, scalar?_withScalar, WiringCall.scalars]
    by_cases own : name = added.name
    · rw [if_pos own, if_pos own.symm]
      rfl
    · rw [if_neg own, if_neg (Ne.symm own)]
      rfl
  | type steps =>
    obtain ⟨name, -, rfl⟩ := afterCall_type_eq_ok ok
    rfl

/-- The factory that a call sets replaces the one before. -/
theorem factory_afterCall :
    next.factory = call.factories.getLast?.getD wiring.factory := by
  cases call with
  | factory | scalar =>
    obtain rfl := Except.ok.inj ok
    rfl
  | type steps =>
    obtain ⟨name, -, rfl⟩ := afterCall_type_eq_ok ok
    rfl

end Step

/-! ### Many calls -/

/-- Calls make a wiring exactly if every type in them is named. -/
theorem exists_ofCalls_iff (calls : List (WiringCall B)) :
    (∃ wiring, ofCalls calls = .ok wiring) ↔ ∀ call ∈ calls, call.subject ≠ .type none := by
  have onward : ∀ wiring : Wiring B, (∃ last, calls.foldlM afterCall wiring = .ok last) ↔
      ∀ call ∈ calls, call.subject ≠ .type none := by
    induction calls with
    | nil => exact fun wiring => iff_of_true ⟨wiring, rfl⟩ (List.forall_mem_nil _)
    | cons call rest ih =>
      intro wiring
      rw [List.forall_mem_cons, ← exists_afterCall_iff wiring, List.foldlM_cons]
      cases first : wiring.afterCall call with
      | error fault => exact iff_of_false (fun ⟨_, h⟩ => nomatch h) fun ⟨⟨_, h⟩, _⟩ => nomatch h
      | ok next => exact (ih next).trans ⟨fun h => ⟨⟨next, rfl⟩, h⟩, And.right⟩
  exact onward _

/-- **What a view of a wiring shows after many calls**: if each call puts what it gives to what was shown,
and if things can be put together or one after the other, then the calls put all that they give.

**Proof sketch.** By induction on the calls, from any wiring that they begin with. -/
theorem view_foldlM_afterCall {σ α : Type} {view : Wiring B → σ} (put : σ → List α → σ)
    {gives : WiringCall B → List α} (nothing : ∀ shown, put shown [] = shown)
    (together : ∀ shown first second, put shown (first ++ second) = put (put shown first) second)
    (step : ∀ {wiring next : Wiring B} {call : WiringCall B}, wiring.afterCall call = .ok next →
      view next = put (view wiring) (gives call))
    {calls : List (WiringCall B)} {wiring last : Wiring B}
    (made : calls.foldlM afterCall wiring = .ok last) :
    view last = put (view wiring) (calls.flatMap gives) := by
  induction calls generalizing wiring with
  | nil =>
    obtain rfl := Except.ok.inj made
    exact (nothing _).symm
  | cons call rest ih =>
    rw [List.foldlM_cons] at made
    cases first : wiring.afterCall call with
    | error fault =>
      rw [first] at made
      cases made
    | ok next =>
      rw [first] at made
      rw [ih made, step first, List.flatMap_cons, together]

/-- The last of two lists together is the last of the second, or else that of the first. -/
theorem or_getLast?_append {α : Type} (before : Option α) (first second : List α) :
    (first ++ second).getLast?.or before = second.getLast?.or (first.getLast?.or before) := by
  rw [List.getLast?_append, Option.or_assoc]

/-- **What a wiring remembers of the calls that made it.** -/
structure Remembers (wiring : Wiring B) (calls : List (WiringCall B)) : Prop where
  /-- The fetchers of a type are all that were given for it, one after the other. -/
  fetchers : ∀ type, wiring.fetchersOf type = .ofList (calls.flatMap (WiringCall.fetchers type))
  /-- The fetcher of a field is the last one given for it among those of its type. -/
  fetcher : ∀ type field, wiring.fetcher? type field =
    (calls.flatMap (WiringCall.fetchers type)).reverse.lookup field
  /-- The resolver of a type is the last one given for it. -/
  resolver : ∀ type, wiring.resolver? type =
    (calls.flatMap (WiringCall.resolvers type)).getLast?
  /-- The scalar of a name is the last one registered under it, or else the standard one. -/
  scalar : ∀ name, wiring.scalar? name = (calls.flatMap (WiringCall.scalars name)).getLast?.or
    ((StandardScalar.ofName? name).map (StandardScalar.type B))
  /-- The factory is the last one set, or else the one that claims nothing. -/
  factory : wiring.factory = (calls.flatMap WiringCall.factories).getLast?.getD (.silent B)

/-- **A wiring remembers the calls that made it.** -/
theorem remembers_ofCalls {calls : List (WiringCall B)} {wiring : Wiring B}
    (made : ofCalls calls = .ok wiring) : wiring.Remembers calls := by
  have fetchers : ∀ type, wiring.fetchersOf type =
      .ofList (calls.flatMap (WiringCall.fetchers type)) := fun type =>
    view_foldlM_afterCall NameMap.extend (fun _ => rfl) NameMap.extend_append
      (fetchersOf_afterCall · type) made
  refine ⟨fetchers, fun type field => ?_, fun type => ?_, fun name => ?_, ?_⟩
  · rw [fetcher?, fetchers, NameMap.get?_ofList]
  · have last := view_foldlM_afterCall (fun before given => given.getLast?.or before)
      (fun _ => rfl) or_getLast?_append (resolver?_afterCall · type) made
    exact last.trans (Option.or_none ..)
  · have last := view_foldlM_afterCall (fun before given => given.getLast?.or before)
      (fun _ => rfl) or_getLast?_append (scalar?_afterCall · name) made
    exact scalar?_standard (B := B) name ▸ last
  · refine view_foldlM_afterCall (fun before given => given.getLast?.getD before)
      (fun _ => rfl) (fun before first second => ?_) factory_afterCall made
    rw [List.getLast?_append, Option.getD_or]

/-! ### Calls that change places -/

end Wiring

namespace WiringCall

variable {call : WiringCall B}

/-- Only calls on a type give fetchers for it. -/
theorem fetchers_eq_nil {type : String} (other : call.subject ≠ .type (some type)) :
    call.fetchers type = [] := by
  cases call with
  | factory | scalar => rfl
  | type steps => exact if_neg fun own => other (congrArg WiringSubject.type own)

/-- Only calls on a type give resolvers for it. -/
theorem resolvers_eq_nil {type : String} (other : call.subject ≠ .type (some type)) :
    call.resolvers type = [] := by
  cases call with
  | factory | scalar => rfl
  | type steps => exact if_neg fun own => other (congrArg WiringSubject.type own)

/-- Only calls on a scalar register it. -/
theorem scalars_eq_nil {name : String} (other : call.subject ≠ .scalar name) :
    call.scalars name = [] := by
  cases call with
  | factory | type => rfl
  | scalar added => exact if_neg fun own => other (congrArg WiringSubject.scalar own)

/-- Only calls on the factory set it. -/
theorem factories_eq_nil (other : call.subject ≠ .factory) : call.factories = [] := by
  cases call with
  | factory => exact absurd rfl other
  | scalar | type => rfl

/-- Two calls on different subjects give the same in either order, if nothing but a call on one subject
gives anything. -/
theorem flatMap_swap {α : Type} {gives : WiringCall B → List α} {subject : WiringSubject}
    (only : ∀ {call : WiringCall B}, call.subject ≠ subject → gives call = [])
    {first second : WiringCall B} (apart : first.subject ≠ second.subject)
    (before after : List (WiringCall B)) :
    (before ++ second :: first :: after).flatMap gives =
      (before ++ first :: second :: after).flatMap gives := by
  simp only [List.flatMap_append, List.flatMap_cons]
  by_cases own : first.subject = subject
  · rw [only (own ▸ apart.symm)]
    rfl
  · rw [only own]
    rfl

end WiringCall

namespace Wiring

/-- **Two wirings in which the same is found.** -/
structure SameLookups (wiring wiring' : Wiring B) : Prop where
  /-- The same fetchers are found for a type, in the same order. -/
  fetchers : ∀ type, wiring'.fetchersOf type = wiring.fetchersOf type
  /-- The same fetcher is found for a field. -/
  fetcher : ∀ type field, wiring'.fetcher? type field = wiring.fetcher? type field
  /-- The same resolver is found for a type. -/
  resolver : ∀ type, wiring'.resolver? type = wiring.resolver? type
  /-- The same scalar is found under a name. -/
  scalar : ∀ name, wiring'.scalar? name = wiring.scalar? name
  /-- The same factory is asked. -/
  factory : wiring'.factory = wiring.factory

/-- In what two calls on different subjects make of a wiring the same is found, whichever of them comes
first. -/
theorem Remembers.sameLookups {wiring wiring' : Wiring B} {before after : List (WiringCall B)}
    {first second : WiringCall B} (apart : first.subject ≠ second.subject)
    (remembers : wiring.Remembers (before ++ first :: second :: after))
    (remembers' : wiring'.Remembers (before ++ second :: first :: after)) :
    wiring.SameLookups wiring' where
  fetchers type := by
    rw [remembers.fetchers, remembers'.fetchers,
      WiringCall.flatMap_swap WiringCall.fetchers_eq_nil apart]
  fetcher type field := by
    rw [remembers.fetcher, remembers'.fetcher,
      WiringCall.flatMap_swap WiringCall.fetchers_eq_nil apart]
  resolver type := by
    rw [remembers.resolver, remembers'.resolver,
      WiringCall.flatMap_swap WiringCall.resolvers_eq_nil apart]
  scalar name := by
    rw [remembers.scalar, remembers'.scalar,
      WiringCall.flatMap_swap WiringCall.scalars_eq_nil apart]
  factory := by
    rw [remembers.factory, remembers'.factory,
      WiringCall.flatMap_swap WiringCall.factories_eq_nil apart]

/-- **What is found in a wiring is the last that calls gave for it**, among those that name it in the end,
and nothing else is found. And where two calls that follow each other are on different subjects, they make
a wiring in the other order, too, and the same is found in it.

**Proof sketch.** What a call gives is put before what was found (`fetchersOf_afterCall` and the lemmas
beside it), so that what all calls give is put before what was found at first (`view_foldlM_afterCall`). Of
two calls on different subjects at most one gives anything for a name (`WiringCall.flatMap_swap`). -/
theorem found_ofCalls {calls : List (WiringCall B)} {wiring : Wiring B}
    (made : ofCalls calls = .ok wiring) :
    wiring.Remembers calls ∧
      ∀ before first second after, calls = before ++ first :: second :: after →
        first.subject ≠ second.subject →
        ∃ wiring', ofCalls (before ++ second :: first :: after) = .ok wiring' ∧
          wiring.SameLookups wiring' := by
  refine ⟨remembers_ofCalls made, ?_⟩
  rintro before first second after rfl apart
  have named := (exists_ofCalls_iff _).1 ⟨wiring, made⟩
  have turned : ∀ call ∈ before ++ second :: first :: after, call.subject ≠ .type none := by
    intro call h
    refine named call ?_
    simp only [List.mem_append, List.mem_cons] at h ⊢
    tauto
  obtain ⟨wiring', made'⟩ := (exists_ofCalls_iff _).2 turned
  exact ⟨wiring', made', (remembers_ofCalls made).sameLookups apart (remembers_ofCalls made')⟩

/-- Calls that wire two types and a scalar, each of them more than once; one type is given another name
after its fetchers and its resolver. -/
def rewiringCalls : List (WiringCall labelledBehaviours) := [
  .type [.name "Query", .fetcher "a" "single", .fetchers (.ofList [("b", "bulk"), ("a", "bulk")]),
    .fetcher "b" "single again"],
  .scalar ⟨"Int", some "early", .custom ()⟩,
  .type [.fetcher "a" "renamed", .name "Item", .resolver "renamed", .name "Query"],
  .type [.name "Item", .fetcher "label" "early", .resolver "early", .resolver "kept"],
  .type [.fetcher "label" "late", .name "Item"],
  .scalar ⟨"Int", some "late", .custom ()⟩]

/-- In the wiring that the calls make the last fetchers and the last scalar are found; a resolver stays
where a later wiring has none; and nothing is left of the name that was replaced. The calls in the middle
may change places. -/
theorem found_ofCalls_rewiringCalls :
    ∃ wiring, ofCalls rewiringCalls = .ok wiring ∧
      wiring.fetcher? "Query" "a" = some "renamed" ∧
      wiring.fetcher? "Query" "b" = some "single again" ∧
      wiring.fetcher? "Item" "label" = some "late" ∧ wiring.fetcher? "Item" "a" = none ∧
      wiring.resolver? "Query" = some "renamed" ∧ wiring.resolver? "Item" = some "kept" ∧
      (wiring.scalar? "Int").map ScalarType.description = some (some "late") ∧
      wiring.scalar? "ID" = some (StandardScalar.id.type labelledBehaviours) ∧
      wiring.scalar? "Item" = none ∧
      ∃ before first second after, rewiringCalls = before ++ first :: second :: after ∧
        first.subject = .type (some "Query") ∧ second.subject = .type (some "Item") ∧
        ∃ wiring', ofCalls (before ++ second :: first :: after) = .ok wiring' ∧
          wiring.SameLookups wiring' := by
  obtain ⟨wiring, made⟩ := (exists_ofCalls_iff rewiringCalls).2 (by decide)
  obtain ⟨remembers, swap⟩ := found_ofCalls made
  refine ⟨wiring, made, (remembers.fetcher _ _).trans rfl, (remembers.fetcher _ _).trans rfl,
    (remembers.fetcher _ _).trans rfl, (remembers.fetcher _ _).trans rfl,
    (remembers.resolver _).trans rfl, (remembers.resolver _).trans rfl, ?_,
    (remembers.scalar _).trans rfl, (remembers.scalar _).trans rfl,
    rewiringCalls.take 2, _, _, rewiringCalls.drop 4, rfl, rfl, rfl, ?_⟩
  · rw [remembers.scalar]
    rfl
  · exact swap (rewiringCalls.take 2) _ _ (rewiringCalls.drop 4) rfl (by decide)

end Wiring

end SchemaAssembly
