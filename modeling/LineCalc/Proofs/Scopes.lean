import LineCalc.Scope

/-!
# The bindings of a scope

A scope is determined by the bindings made in it so far: the initial ones and those
of its steps, in order. Each name among them is bound once, in the order in which
the names first appear, to the value it was given last. All other steps leave the
bindings as they are. Every view leads to the cell in which the scope keeps its
bindings, so it shows them as they are when it is looked at.

## Implementation notes

The bindings made so far are kept as a list of their own, with repetitions. What a
scope holds is described from this history alone, so that a step has to be compared
with the history only and not with the steps before it.

What a step can do to a scope is said once, in `Effect`: it binds a name in the cell of
the scope, gives out a view of this cell, leaves the copy made for an evaluation behind,
or does nothing. All that a run preserves is drawn from this.
-/

namespace LineCalc

namespace Bindings

variable {α : Type} {history : List (String × α)} {bindings : Bindings α} {name : String} {x : α}

/-- The last value that a history gives to a name. -/
def Latest (history : List (String × α)) (name : String) (x : α) : Prop :=
  ∃ before after, history = before ++ (name, x) :: after ∧ ∀ entry ∈ after, entry.1 ≠ name

/-- The first name has appeared in a history when the second one has not. -/
def AppearsBefore (history : List (String × α)) (name other : String) : Prop :=
  ∃ before, before <+: history.map Prod.fst ∧ name ∈ before ∧ other ∉ before

/-- The bindings hold each name of a history once, in the order in which the names
appear, with its last value. -/
structure Records (history : List (String × α)) (bindings : Bindings α) : Prop where
  order : bindings.names.Pairwise (AppearsBefore history)
  mem_iff : ∀ name x, (name, x) ∈ bindings.entries ↔ Latest history name x

theorem latest_append_self (history : List (String × α)) (name : String) (x : α) :
    Latest (history ++ [(name, x)]) name x :=
  ⟨history, [], rfl, by simp⟩

/-- What is bound last decides the value of its name and of no other one. -/
theorem latest_append_iff {other : String} {y : α} :
    Latest (history ++ [(name, x)]) other y ↔
      (other = name ∧ y = x) ∨ (other ≠ name ∧ Latest history other y) := by
  constructor
  · rintro ⟨before, after, h, hafter⟩
    rcases List.eq_nil_or_concat after with rfl | ⟨after, last, rfl⟩
    · obtain ⟨-, hlast⟩ := List.append_singleton_inj.mp h
      cases hlast
      exact Or.inl ⟨rfl, rfl⟩
    · rw [List.concat_eq_append] at h hafter
      rw [← List.cons_append, ← List.append_assoc] at h
      obtain ⟨rfl, rfl⟩ := List.append_singleton_inj.mp h
      obtain ⟨hafter, hlast⟩ := List.forall_mem_append.mp hafter
      exact Or.inr ⟨Ne.symm (hlast _ List.mem_cons_self), before, after, rfl, hafter⟩
  · rintro (⟨rfl, rfl⟩ | ⟨hne, before, after, rfl, hafter⟩)
    · exact latest_append_self history _ _
    · refine ⟨before, after ++ [(name, x)], by simp, ?_⟩
      exact List.forall_mem_append.mpr ⟨hafter, by simpa using Ne.symm hne⟩

theorem exists_latest_iff (history : List (String × α)) (name : String) :
    (∃ x, Latest history name x) ↔ name ∈ history.map Prod.fst := by
  constructor
  · rintro ⟨x, before, after, rfl, -⟩
    simp
  · intro h
    induction history with
    | nil => cases h
    | cons entry rest ih =>
        by_cases hrest : name ∈ rest.map Prod.fst
        · obtain ⟨x, before, after, rfl, hafter⟩ := ih hrest
          exact ⟨x, entry :: before, after, rfl, hafter⟩
        · -- The first entry is the last one with its name.
          rcases List.mem_cons.mp h with rfl | hmem
          · refine ⟨entry.2, [], rest, rfl, ?_⟩
            intro other hother heq
            exact hrest (heq ▸ List.mem_map_of_mem hother)
          · exact absurd hmem hrest

theorem AppearsBefore.append {other : String} (h : AppearsBefore history name other)
    (more : List (String × α)) : AppearsBefore (history ++ more) name other := by
  obtain ⟨before, hbefore, hname, hother⟩ := h
  refine ⟨before, ?_, hname, hother⟩
  rw [List.map_append]
  exact hbefore.trans (List.prefix_append _ _)

namespace Records

theorem mem_names_iff (h : Records history bindings) :
    name ∈ bindings.names ↔ name ∈ history.map Prod.fst := by
  rw [← exists_latest_iff]
  simp only [← h.mem_iff, names, List.mem_map, Prod.exists, exists_and_right, exists_eq_right]

theorem nodup (h : Records history bindings) : bindings.names.Nodup := by
  apply h.order.imp
  rintro a b ⟨before, -, ha, hb⟩ rfl
  exact hb ha

end Records

theorem names_put (name : String) (x : α) (entries : List (String × α)) :
    (put name x entries).map Prod.fst =
      if name ∈ entries.map Prod.fst then entries.map Prod.fst
      else entries.map Prod.fst ++ [name] := by
  induction entries with
  | nil => simp [put]
  | cons entry rest ih =>
      by_cases h : entry.1 = name
      · simp [put, h]
      · have hmem : name ∈ (entry :: rest).map Prod.fst ↔ name ∈ rest.map Prod.fst := by
          rw [List.map_cons, List.mem_cons, or_iff_right (Ne.symm h)]
        rw [put, if_neg h, List.map_cons, ih]
        simp only [hmem]
        split <;> rfl

/-- Where no name occurs twice, putting a value under a name changes its entry only. -/
theorem mem_put_iff {entries : List (String × α)} (h : (entries.map Prod.fst).Nodup)
    {other : String} {y : α} :
    (other, y) ∈ put name x entries ↔
      (other = name ∧ y = x) ∨ (other ≠ name ∧ (other, y) ∈ entries) := by
  induction entries with
  | nil => simp [put]
  | cons entry rest ih =>
      rw [List.map_cons, List.nodup_cons] at h
      obtain ⟨hentry, hrest⟩ := h
      by_cases heq : entry.1 = name
      · have hne : ∀ y, (other, y) ∈ rest → other ≠ name := by
          rintro y hy rfl
          exact hentry (heq ▸ List.mem_map_of_mem hy)
        rw [put, if_pos heq]
        grind
      · rw [put, if_neg heq, List.mem_cons, ih hrest, List.mem_cons]
        grind

theorem find?_eq_some_iff {entries : List (String × α)} (h : (entries.map Prod.fst).Nodup) :
    find? name entries = some x ↔ (name, x) ∈ entries := by
  induction entries with
  | nil => simp [find?]
  | cons entry rest ih =>
      rw [List.map_cons, List.nodup_cons] at h
      obtain ⟨hentry, hrest⟩ := h
      rw [find?]
      by_cases heq : entry.1 = name
      · have hnot : (name, x) ∉ rest := fun hmem => hentry (heq ▸ List.mem_map_of_mem hmem)
        rw [if_pos heq, List.mem_cons]
        grind
      · rw [if_neg heq, ih hrest, List.mem_cons]
        grind

namespace Records

theorem empty : Records [] (Bindings.empty : Bindings α) := by
  constructor
  · exact .nil
  · intro name x
    constructor
    · rintro ⟨⟩
    · rintro ⟨before, after, h, -⟩
      cases before <;> cases h

/-- One more binding is recorded at the place of its name, or at the end. -/
theorem insert (h : Records history bindings) (name : String) (x : α) :
    Records (history ++ [(name, x)]) (bindings.insert name x) := by
  constructor
  · have hold : bindings.names.Pairwise (AppearsBefore (history ++ [(name, x)])) :=
      h.order.imp fun hbefore => hbefore.append _
    simp only [names, Bindings.insert, names_put]
    split
    · exact hold
    · next hnew =>
        refine List.pairwise_append.mpr ⟨hold, List.pairwise_singleton _ _, ?_⟩
        intro a ha b hb
        cases List.mem_singleton.mp hb
        refine ⟨history.map Prod.fst, ?_, h.mem_names_iff.mp ha, ?_⟩
        · rw [List.map_append]
          exact List.prefix_append _ _
        · exact fun hmem => hnew (h.mem_names_iff.mpr hmem)
  · intro other y
    rw [latest_append_iff, ← h.mem_iff]
    exact mem_put_iff h.nodup

theorem ofList (entries : List (String × α)) : Records entries (.ofList entries) := by
  -- The bindings made so far record the entries that have been passed.
  have hfold : ∀ (more before : List (String × α)) (bindings : Bindings α),
      Records before bindings →
      Records (before ++ more) (more.foldl (fun b entry => b.insert entry.1 entry.2) bindings) := by
    intro more
    induction more with
    | nil =>
        intro before bindings h
        rwa [List.append_nil]
    | cons entry more ih =>
        intro before bindings h
        rw [List.append_cons]
        exact ih _ _ (h.insert entry.1 entry.2)
  exact hfold entries [] .empty .empty

end Records

end Bindings

namespace Scope

open Bindings

variable {initial history : List (String × Float)} {scope next : Scope} {step : Step}
  {before : List Step}

/-- The binding that a step makes. -/
def Step.binding? : Step → Option (String × Float)
  | bind name value => some (name, value)
  | _ => none

/-- Whether a step gives out a view. -/
def Step.isFreeze : Step → Bool
  | freeze => true
  | _ => false

/-- The bindings made by steps, behind the initial ones. -/
def historyAfter (initial : List (String × Float)) (steps : List Step) : List (String × Float) :=
  initial ++ steps.filterMap Step.binding?

/-- What a step answers when a history has led to bindings and some views were given
out: a name has the value it was given last, and each of the views shows the bindings
as they are. -/
inductive Answers (history : List (String × Float)) (bindings : Bindings Float) (views : Nat) :
    Step → Reply → Prop
  | bind {name : String} {value : Float} {next : Bindings Float}
      (h : Records (history ++ [(name, value)]) next) :
      Answers history bindings views (.bind name value) (.bindings next.entries)
  | found {name : String} {x : Float} (h : Latest history name x) :
      Answers history bindings views (.lookup name) (.value x)
  | missing {name : String} (h : name ∉ history.map Prod.fst) :
      Answers history bindings views (.lookup name)
        (.failed (.unplaced (.eval (.undefinedName name))))
  | freeze : Answers history bindings views .freeze (.view views)
  | view {index : Nat} (h : index < views) :
      Answers history bindings views (.view index) (.bindings bindings.entries)
  | noView {index : Nat} (h : views ≤ index) :
      Answers history bindings views (.view index) .unknownView
  | writeView {index : Nat} (h : index < views) (name : String) (value : Float) :
      Answers history bindings views (.writeView index name value) .readOnly
  | noWriteView {index : Nat} (h : views ≤ index) (name : String) (value : Float) :
      Answers history bindings views (.writeView index name value) .unknownView
  | value {source : String} {x : Float} (h : evalLine bindings source = .ok x) :
      Answers history bindings views (.eval source) (.value x)
  | failure {source : String} {d : Diagnostic} (h : evalLine bindings source = .error d) :
      Answers history bindings views (.eval source) (.failed d)

@[simp] theorem bindings_copyOf (store : Store) (given : Nat) :
    (copyOf store given).bindings = store.read given :=
  Store.read_allocate_self _

@[simp] theorem bindings_bind (scope : Scope) (name : String) (value : Float) :
    (scope.bind name value).bindings = scope.bindings.insert name value :=
  Store.read_write_self scope.isCell _

@[simp] theorem bindings_freeze (scope : Scope) : scope.freeze.bindings = scope.bindings := rfl

@[simp] theorem bindings_inner (scope : Scope) : scope.inner.bindings = scope.bindings :=
  bindings_copyOf _ _

@[simp] theorem bindings_afterEval (scope : Scope) :
    scope.afterEval.bindings = scope.bindings :=
  Store.read_allocate_of_lt scope.isCell _

@[simp] theorem bindings_ofList (entries : List (String × Float)) :
    (ofList entries).bindings = .ofList entries :=
  bindings_copyOf _ _

/-- What a step can do to a scope. -/
inductive Effect (scope : Scope) : Step → Scope → Prop
  | bind (name : String) (value : Float) :
      Effect scope (.bind name value) (scope.bind name value)
  | freeze : Effect scope .freeze scope.freeze
  | eval (source : String) : Effect scope (.eval source) scope.afterEval
  | idle {step : Step} (hbinding : step.binding? = none) (hfreeze : step.isFreeze = false) :
      Effect scope step scope

theorem step_effect (scope : Scope) (step : Step) : Effect scope step (scope.step step).2 := by
  cases step with
  | bind name value => exact .bind name value
  | lookup name =>
      simp only [Scope.step]
      split <;> exact .idle rfl rfl
  | freeze => exact .freeze
  | view index =>
      simp only [Scope.step]
      split <;> exact .idle rfl rfl
  | writeView index name value =>
      simp only [Scope.step]
      split <;> exact .idle rfl rfl
  | eval source =>
      simp only [Scope.step]
      split <;> exact .eval source

namespace Effect

theorem address_eq (h : Effect scope step next) : next.address = scope.address := by
  cases h <;> rfl

/-- A step makes its binding, if it has one, and leaves the bindings as they are otherwise. -/
theorem bindings_eq (h : Effect scope step next) :
    next.bindings =
      step.binding?.elim scope.bindings fun entry => scope.bindings.insert entry.1 entry.2 := by
  cases h with
  | bind name value => exact bindings_bind scope name value
  | freeze => exact bindings_freeze scope
  | eval source => exact bindings_afterEval scope
  | idle hbinding _ =>
      rw [hbinding]
      rfl

theorem records (h : Effect scope step next) (hrecords : Records history scope.bindings) :
    Records (history ++ step.binding?.toList) next.bindings := by
  rw [h.bindings_eq]
  cases step.binding? with
  | none =>
      rw [Option.toList_none, List.append_nil]
      exact hrecords
  | some entry => exact hrecords.insert entry.1 entry.2

/-- Names keep their places. -/
theorem isPrefix_names (h : Effect scope step next) :
    scope.bindings.names <+: next.bindings.names := by
  rw [h.bindings_eq]
  cases step.binding? with
  | none => exact List.prefix_refl _
  | some entry =>
      simp only [Option.elim_some, names, Bindings.insert, names_put]
      split
      · exact List.prefix_refl _
      · exact List.prefix_append _ _

/-- A view that is given out leads to the cell of the scope, and no view is moved. -/
theorem views_eq (h : Effect scope step next) :
    next.views = scope.views ++ List.replicate ([step].countP Step.isFreeze) scope.address := by
  cases h with
  | bind name value => exact (List.append_nil _).symm
  | freeze => rfl
  | eval source => exact (List.append_nil _).symm
  | idle _ hfreeze => simp [hfreeze]

/-- Only the cell of the scope is written. -/
theorem read_of_ne {address : Nat} (h : Effect scope step next)
    (hcell : address < scope.store.size) (hne : address ≠ scope.address) :
    next.store.read address = scope.store.read address := by
  cases h with
  | bind name value => exact Store.read_write_of_ne hne _
  | freeze => rfl
  | eval source => exact Store.read_allocate_of_lt hcell _
  | idle _ _ => rfl

end Effect

/-- What steps have left of a scope with initial bindings, which were given in the
first cell. -/
structure Holds (initial : List (String × Float)) (before : List Step) (scope : Scope) :
    Prop where
  records : Records (historyAfter initial before) scope.bindings
  views_eq : scope.views = List.replicate (before.countP Step.isFreeze) scope.address
  isOwn : 0 < scope.address
  given : scope.store.read 0 = .ofList initial

namespace Holds

theorem ofList (initial : List (String × Float)) : Holds initial [] (Scope.ofList initial) where
  records := by
    rw [historyAfter, List.filterMap_nil, List.append_nil, bindings_ofList]
    exact .ofList initial
  views_eq := rfl
  isOwn := Nat.zero_lt_one
  given := rfl

theorem append_step (h : Holds initial before scope) (heffect : Effect scope step next) :
    Holds initial (before ++ [step]) next where
  records := by
    have hhistory : historyAfter initial (before ++ [step]) =
        historyAfter initial before ++ step.binding?.toList := by
      rw [historyAfter, historyAfter, List.filterMap_append, List.append_assoc]
      cases hstep : step.binding? <;> simp [hstep]
    rw [hhistory]
    exact heffect.records h.records
  views_eq := by
    rw [heffect.views_eq, heffect.address_eq, h.views_eq, List.replicate_append_replicate,
      List.countP_append]
  isOwn := by
    rw [heffect.address_eq]
    exact h.isOwn
  given := by
    have hcell : 0 < scope.store.size := Nat.lt_trans h.isOwn scope.isCell
    rw [heffect.read_of_ne hcell (Nat.ne_of_lt h.isOwn)]
    exact h.given

/-- What a run has left follows step by step. -/
theorem run (h : Holds initial before scope) (steps : List Step) :
    Holds initial (before ++ steps) (scope.run steps).2 := by
  induction steps generalizing before scope with
  | nil =>
      rw [List.append_nil]
      exact h
  | cons step steps ih =>
      rw [List.append_cons]
      exact ih (h.append_step (step_effect scope step))

variable (h : Holds initial before scope)

include h

/-- A view that was given out shows the bindings of the scope. -/
theorem look?_eq (index : Nat) :
    scope.look? index =
      if index < before.countP Step.isFreeze then some scope.bindings else none := by
  rw [look?, h.views_eq, List.getElem?_replicate]
  split <;> rfl

theorem answers_lookup (name : String) :
    Answers (historyAfter initial before) scope.bindings (before.countP Step.isFreeze)
      (.lookup name) (scope.step (.lookup name)).1 := by
  have hrecords := h.records
  simp only [Scope.step, Bindings.lookup]
  cases hget : scope.bindings.get? name with
  | some x =>
      exact .found ((hrecords.mem_iff name x).mp ((find?_eq_some_iff hrecords.nodup).mp hget))
  | none =>
      apply Answers.missing
      intro hmem
      obtain ⟨x, hx⟩ := (exists_latest_iff _ name).mpr hmem
      have hfound := (find?_eq_some_iff hrecords.nodup).mpr ((hrecords.mem_iff name x).mpr hx)
      rw [get?, hfound] at hget
      cases hget

/-- A step answers from the bindings that are recorded, also through a view. -/
theorem answers (step : Step) :
    Answers (historyAfter initial before) scope.bindings (before.countP Step.isFreeze) step
      (scope.step step).1 := by
  cases step with
  | bind name value =>
      simp only [Scope.step, bindings_bind]
      exact .bind (h.records.insert name value)
  | lookup name => exact h.answers_lookup name
  | freeze =>
      have hlength : scope.views.length = before.countP Step.isFreeze := by
        rw [h.views_eq, List.length_replicate]
      simp only [Scope.step, hlength]
      exact .freeze
  | view index =>
      simp only [Scope.step, h.look?_eq]
      by_cases hgiven : index < before.countP Step.isFreeze
      · rw [if_pos hgiven]
        exact .view hgiven
      · rw [if_neg hgiven]
        exact .noView (Nat.not_lt.mp hgiven)
  | writeView index name value =>
      simp only [Scope.step, h.look?_eq]
      by_cases hgiven : index < before.countP Step.isFreeze
      · rw [if_pos hgiven]
        exact .writeView hgiven name value
      · rw [if_neg hgiven]
        exact .noWriteView (Nat.not_lt.mp hgiven) name value
  | eval source =>
      simp only [Scope.step, bindings_inner]
      cases hresult : evalLine scope.bindings source with
      | ok x => exact .value hresult
      | error d => exact .failure hresult

end Holds

theorem run_append (scope : Scope) (before after : List Step) :
    scope.run (before ++ after) =
      ((scope.run before).1 ++ ((scope.run before).2.run after).1,
        ((scope.run before).2.run after).2) := by
  induction before generalizing scope with
  | nil => rfl
  | cons step before ih => simp only [List.cons_append, run, ih]

theorem length_run (scope : Scope) (steps : List Step) :
    (scope.run steps).1.length = steps.length := by
  induction steps generalizing scope with
  | nil => rfl
  | cons step steps ih => simp only [run, List.length_cons, ih]

/-- Names keep their places, whatever is done next. -/
theorem names_prefix_run (scope : Scope) (steps : List Step) :
    scope.bindings.names <+: (scope.run steps).2.bindings.names := by
  induction steps generalizing scope with
  | nil => exact List.prefix_refl _
  | cons step steps ih => exact (step_effect scope step).isPrefix_names.trans (ih _)

/-- A scope after some steps of a run, in which further steps follow. -/
structure Faithful (initial : List (String × Float)) (before after : List Step) (scope : Scope) :
    Prop where
  /-- The bindings are those made so far. -/
  records : Records (historyAfter initial before) scope.bindings
  nodup : scope.bindings.names.Nodup
  mem_names_iff : ∀ name,
    name ∈ scope.bindings.names ↔ name ∈ (historyAfter initial before).map Prod.fst
  /-- No name disappears or moves while the further steps are done. -/
  names_prefix : scope.bindings.names <+: (scope.run after).2.bindings.names
  /-- As many views were given out as were asked for, and each of them leads to the cell
  of the scope. -/
  views_eq : scope.views = List.replicate (before.countP Step.isFreeze) scope.address
  /-- Looking through any of them reads the bindings that the scope has now. -/
  views_show : ∀ index < before.countP Step.isFreeze, scope.look? index = some scope.bindings
  /-- Each step answers from the bindings made so far. -/
  answers : ∀ step, ∃ reply,
    ((ofList initial).run (before ++ step :: after)).1[before.length]? = some reply ∧
      Answers (historyAfter initial before) scope.bindings (before.countP Step.isFreeze) step reply
  /-- A step that binds no name leaves the bindings as they are. -/
  unchanged : ∀ step, step.binding? = none →
    ((ofList initial).run (before ++ [step])).2.bindings = scope.bindings
  /-- The bindings that were given at first are left alone in their cell. -/
  given : scope.store.read 0 = .ofList initial

/-- At every point of every run, a scope holds the names bound so far, in the order of
their first appearance, with the values they were given last; every view given out
before leads to these bindings, every step answers from them, and only a step that binds
a name changes them. -/
theorem run_faithful (initial : List (String × Float)) (before after : List Step) :
    Faithful initial before after ((ofList initial).run before).2 := by
  have hholds : Holds initial before ((ofList initial).run before).2 :=
    (Holds.ofList initial).run before
  refine
    { records := hholds.records
      nodup := hholds.records.nodup
      mem_names_iff := fun name => hholds.records.mem_names_iff
      names_prefix := names_prefix_run _ after
      views_eq := hholds.views_eq
      views_show := ?_
      answers := ?_
      unchanged := ?_
      given := hholds.given }
  · intro index hindex
    rw [hholds.look?_eq, if_pos hindex]
  · intro step
    refine ⟨(((ofList initial).run before).2.step step).1, ?_, hholds.answers step⟩
    have hlength := length_run (ofList initial) before
    rw [run_append, List.getElem?_append_right (Nat.le_of_eq hlength), hlength, Nat.sub_self]
    rfl
  · intro step hstep
    rw [run_append]
    have hbindings := (step_effect ((ofList initial).run before).2 step).bindings_eq
    rw [hstep] at hbindings
    exact hbindings

end Scope

end LineCalc
