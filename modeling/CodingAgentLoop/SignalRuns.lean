/-
The runs of the signal planner that lose no signal.

A pass is in order when it stops nowhere. One that stops at its first signal, before it writes
anything, loses nothing either, but it keeps every other signal from being planned; so it is in
order only when there is no other. A run whose passes are in order plans each signal once and
returns the intent of each signal it planned.
-/
import CodingAgentLoop.SignalPlanning

namespace CodingAgentLoop

open Lib Action Table List

namespace SignalPlanner

variable {planner : SignalPlanner} {pass : SignalPass} {signal : ProactiveSignalRecord}
  {store : SignalStore} {signals : List ProactiveSignalRecord}

/-! ## The rows of a pass -/

def Keyed (planner : SignalPlanner) (store : SignalStore) : Prop :=
  ∀ signal_id row, store.signals.row signal_id = some row →
    row.signal_id = signal_id ∧ planner.Checked row

theorem mem_signal_rows {status : SignalStatus} (h : Keyed planner store) :
    signal ∈ planner.signal_rows store status
      ↔ store.signals.row signal.signal_id = some signal ∧ signal.status = status := by
  unfold signal_rows
  rw [mem_insertionSort, mem_map]
  constructor
  · rintro ⟨⟨signal_id, row⟩, hmem, rfl⟩
    obtain ⟨hrow, hstatus⟩ := mem_select.mp hmem
    rw [(h _ _ hrow).1]
    exact ⟨hrow, of_decide_eq_true hstatus⟩
  · rintro ⟨hrow, hstatus⟩
    exact ⟨(signal.signal_id, signal), mem_select.mpr ⟨hrow, decide_eq_true hstatus⟩, rfl⟩

theorem rows_batch (h : Keyed planner store) (status : SignalStatus) :
    Batch planner store (planner.signal_rows store status) := by
  constructor
  · intro signal hmem
    obtain ⟨hrow, -⟩ := (mem_signal_rows h).mp hmem
    exact ⟨hrow, (h _ _ hrow).2⟩
  · have hids : ((store.signals.select (fun _ row => row.status = status)).map Prod.snd).map
        (·.signal_id) = (store.signals.select (fun _ row => row.status = status)).map Prod.fst := by
      rw [map_map]
      refine map_congr_left (fun entry hmem => ?_)
      exact (h _ _ (mem_select.mp hmem).1).1
    have hperm : (planner.signal_rows store status).Perm
        ((store.signals.select (fun _ row => row.status = status)).map Prod.snd) :=
      perm_insertionSort _ _
    have hnodup : ((planner.signal_rows store status).map (·.signal_id)).Nodup := by
      rw [(hperm.map _).nodup_iff, hids]
      exact nodup_select _ _
    exact pairwise_map.mp hnodup

def batch (planner : SignalPlanner) (pass : SignalPass) (store : SignalStore) :
    List ProactiveSignalRecord :=
  (planner.signal_rows store .new).take pass.max_signals.toNat

theorem batch_spec (h : Keyed planner store) : Batch planner store (planner.batch pass store) := by
  have hrows := rows_batch h .new
  exact ⟨fun signal hmem => hrows.listed signal (mem_of_mem_take hmem),
    hrows.distinct.sublist (take_sublist _ _)⟩

theorem batch_new (h : Keyed planner store) (hmem : signal ∈ planner.batch pass store) :
    store.signals.row signal.signal_id = some signal ∧ signal.status = .new :=
  (mem_signal_rows h).mp (mem_of_mem_take hmem)

theorem batch_bound (planner : SignalPlanner) (store : SignalStore) (h : 0 < pass.max_signals) :
    ((planner.batch pass store).length : Int) ≤ pass.max_signals := by
  have hlength : (planner.batch pass store).length ≤ pass.max_signals.toNat := length_take_le _ _
  omega

theorem max_ok {message : String} (h : 0 < pass.max_signals) :
    (lift (raise_if (pass.max_signals ≤ 0) .ValueError message) : SignalAction Unit) store
      = (.ok (), store) := by
  have hpositive : raise_if (pass.max_signals ≤ 0) .ValueError message = .ok () :=
    raise_if_eq_ok.mpr (by omega)
  exact lift_ok hpositive

theorem list_ok (h : Keyed planner store) (hmax : 0 < pass.max_signals)
    (hreach : pass.fails .list_signals = none) :
    planner.list_signals pass .new pass.max_signals store
      = (.ok (planner.batch pass store), store) := by
  have hread : (planner.batch pass store).mapM planner.signal_from_row
      = .ok (planner.batch pass store) := by
    refine Result.mapM_eq_ok.mpr (forall₂_same.mpr (fun signal hmem => ?_))
    unfold signal_from_row
    rw [((batch_spec h).listed signal hmem).checked]
    rfl
  have hget : (Action.get : SignalAction SignalStore) store = (.ok store, store) := rfl
  unfold list_signals
  rw [bind_ok (max_ok hmax), bind_ok (reach_ok hreach), bind_ok hget]
  exact lift_ok hread

/-! ## What a pass does -/

theorem pass_refused (planner : SignalPlanner) (store : SignalStore)
    (h : pass.max_signals ≤ 0 ∨ (pass.fails .list_signals).isSome) :
    ∃ error, planner.plan_new_signals pass store = (.error error, store) := by
  unfold plan_new_signals
  by_cases hmax : pass.max_signals ≤ 0
  · have hrefused : (lift (raise_if (pass.max_signals ≤ 0) .ValueError
        "max_signals must be a positive int") : SignalAction Unit) store
          = (.error (.raised .ValueError "max_signals must be a positive int"), store) := by
      unfold raise_if
      rw [if_pos hmax]
      rfl
    exact ⟨_, bind_error hrefused⟩
  · obtain ⟨error, herror⟩ := reach_error store (h.resolve_left hmax)
    have hlist : planner.list_signals pass .new pass.max_signals store = (.error error, store) := by
      unfold list_signals
      rw [bind_ok (max_ok (by omega)), bind_error herror]
    refine ⟨error, ?_⟩
    rw [bind_ok (max_ok (by omega)), bind_error hlist]

section

variable (hfolds : FoldsLabels planner.casefold) (h : Keyed planner store)
  (hmax : 0 < pass.max_signals) (hreach : pass.fails .list_signals = none)

include hfolds h hmax hreach

theorem pass_through (hgoes : ∀ signal ∈ planner.batch pass store, ¬ Stops pass signal) :
    planner.plan_new_signals pass store
      = (.ok ((planner.batch pass store).filterMap (planner.signal_intent pass)),
          (planner.batch pass store).foldl (planner.handle pass) store) := by
  have hbound := batch_bound planner store hmax
  have hplanned : planner.plan_signals pass (planner.batch pass store) [] store = _ :=
    plan_signals_ok hfolds (batch_spec h) (by rw [length_nil]; omega) hgoes
  unfold plan_new_signals
  rw [bind_ok (max_ok hmax), bind_ok (list_ok h hmax hreach)]
  exact hplanned

theorem pass_stops {front back : List ProactiveSignalRecord}
    (hbatch : planner.batch pass store = front ++ signal :: back)
    (hfront : ∀ earlier ∈ front, ¬ Stops pass earlier) (hstops : Stops pass signal) :
    ∃ error, planner.plan_new_signals pass store
      = (.error error,
          if StopsEarly pass signal then front.foldl (planner.handle pass) store
          else (front.foldl (planner.handle pass) store).put_signal signal.signal_id
            (planned_row planner pass signal)) := by
  have hspec : Batch planner store (planner.batch pass store) := batch_spec h
  have hbound := batch_bound planner store hmax
  rw [hbatch] at hspec hbound
  have hnothing : (([] : List ScheduledLaunchIntent).length : Int)
      + (front ++ signal :: back).length ≤ pass.max_signals := by
    rw [length_nil]
    omega
  obtain ⟨error, herror⟩ := plan_signals_error hfolds hspec hnothing hfront hstops
  refine ⟨error, ?_⟩
  unfold plan_new_signals
  rw [bind_ok (max_ok hmax), bind_ok (list_ok h hmax hreach), hbatch]
  exact herror

end

/-! ## What handling signals leaves -/

section Fold

variable (planner pass)

theorem fold_row_other {signal_id : String} (store : SignalStore)
    (h : ∀ signal ∈ signals, signal_id ≠ signal.signal_id) :
    (signals.foldl (planner.handle pass) store).signals.row signal_id
      = store.signals.row signal_id := by
  induction signals generalizing store with
  | nil => rfl
  | cons signal rest ih =>
    rw [foldl_cons, ih _ (fun other hother => h other (mem_cons_of_mem _ hother)),
      handle_row, if_neg (h signal mem_cons_self)]

theorem fold_row (store : SignalStore)
    (hdistinct : signals.Pairwise (fun signal other => signal.signal_id ≠ other.signal_id))
    (h : signal ∈ signals) :
    (signals.foldl (planner.handle pass) store).signals.row signal.signal_id
      = some (planner.handled pass signal) := by
  induction signals generalizing store with
  | nil => cases h
  | cons first rest ih =>
    obtain ⟨hfirst, hrest⟩ := pairwise_cons.mp hdistinct
    rw [foldl_cons]
    rcases mem_cons.mp h with rfl | hmem
    · rw [fold_row_other planner pass _ hfirst, handle_row, if_pos rfl]
    · exact ih _ hrest hmem

theorem trigger_id_inj {signal_id other_id : String}
    (h : signal_trigger_id signal_id = signal_trigger_id other_id) : signal_id = other_id :=
  (String.append_right_inj _).mp h

theorem fold_trigger_other {signal_id : String} (store : SignalStore)
    (h : ∀ signal ∈ signals, signal_id ≠ signal.signal_id) :
    (signals.foldl (planner.handle pass) store).triggers.row (signal_trigger_id signal_id)
      = store.triggers.row (signal_trigger_id signal_id) := by
  induction signals generalizing store with
  | nil => rfl
  | cons signal rest ih =>
    rw [foldl_cons, ih _ (fun other hother => h other (mem_cons_of_mem _ hother))]
    unfold handle
    split
    · rfl
    · refine row_put_of_ne _ _ (fun heq => ?_)
      exact h signal mem_cons_self (trigger_id_inj heq)

theorem fold_trigger (store : SignalStore)
    (hdistinct : signals.Pairwise (fun signal other => signal.signal_id ≠ other.signal_id))
    (h : signal ∈ signals) (hcooling : cooling pass signal = false) :
    (signals.foldl (planner.handle pass) store).triggers.row (signal_trigger_id signal.signal_id)
      = some (planner.signal_trigger pass signal) := by
  induction signals generalizing store with
  | nil => cases h
  | cons first rest ih =>
    obtain ⟨hfirst, hrest⟩ := pairwise_cons.mp hdistinct
    rw [foldl_cons]
    rcases mem_cons.mp h with rfl | hmem
    · rw [fold_trigger_other planner pass _ hfirst]
      unfold handle
      rw [if_neg (by rw [hcooling]; exact Bool.false_ne_true)]
      exact row_put_self _ _ _
    · exact ih _ hrest hmem

end Fold

/-! ## Passes in order -/

/-- The signals a pass would plan if the ones at which it stops were not there. -/
def plannable (planner : SignalPlanner) (pass : SignalPass) (store : SignalStore) :
    List ProactiveSignalRecord :=
  ((planner.signal_rows store .new).filter (fun signal => ¬ Stops pass signal)).take
    pass.max_signals.toNat

/-- A pass that raises leaves the new signals new, and no signal keeps another from being
handled. -/
structure PassKeeps (planner : SignalPlanner) (pass : SignalPass) (store : SignalStore) : Prop where
  restored : ∀ error store', planner.plan_new_signals pass store = (.error error, store') →
    ∀ signal_id row, store.signals.row signal_id = some row → row.status = .new →
      ∃ row', store'.signals.row signal_id = some row' ∧ row'.status = .new
  goes_on : pass.fails .list_signals = none → ∀ signal ∈ planner.plannable pass store,
    ∃ row, (planner.plan_new_signals pass store).2.signals.row signal.signal_id = some row
      ∧ row.status ≠ .new

/-- The pass is refused, cannot list, stops nowhere, or stops at its first signal before anything
is written, where there is no signal at which it would not stop. -/
def Clear (planner : SignalPlanner) (pass : SignalPass) (store : SignalStore) : Prop :=
  pass.max_signals ≤ 0 ∨ (pass.fails .list_signals).isSome
    ∨ (∀ signal ∈ planner.batch pass store, ¬ Stops pass signal)
    ∨ (∃ signal rest, planner.batch pass store = signal :: rest ∧ StopsEarly pass signal)
      ∧ ∀ signal ∈ planner.signal_rows store .new, Stops pass signal

theorem take_filter {α : Type} {p : α → Bool} {rows : List α} {limit : Nat}
    (h : ∀ row ∈ rows.take limit, p row = true) : (rows.filter p).take limit = rows.take limit := by
  induction rows generalizing limit with
  | nil => rfl
  | cons row rest ih =>
    cases limit with
    | zero => rfl
    | succ limit =>
      rw [take_succ_cons] at h
      rw [filter_cons_of_pos (h row mem_cons_self), take_succ_cons,
        take_succ_cons, ih (fun other hother => h other (mem_cons_of_mem _ hother))]

theorem plannable_batch (h : ∀ signal ∈ planner.batch pass store, ¬ Stops pass signal) :
    planner.plannable pass store = planner.batch pass store :=
  take_filter (fun signal hmem => decide_eq_true (h signal hmem))

theorem first_stop (h : ¬ ∀ signal ∈ planner.batch pass store, ¬ Stops pass signal) :
    ∃ front signal back, planner.batch pass store = front ++ signal :: back
      ∧ (∀ earlier ∈ front, ¬ Stops pass earlier) ∧ Stops pass signal := by
  generalize planner.batch pass store = signals at h
  induction signals with
  | nil => exact absurd (fun _ hmem => by cases hmem) h
  | cons signal rest ih =>
    by_cases hstops : Stops pass signal
    · exact ⟨[], signal, rest, rfl, (fun _ hmem => by cases hmem), hstops⟩
    · have hrest : ¬ ∀ other ∈ rest, ¬ Stops pass other :=
        fun hall => h (forall_mem_cons.mpr ⟨hstops, hall⟩)
      obtain ⟨front, stop, back, rfl, hfront, hstop⟩ := ih hrest
      exact ⟨signal :: front, stop, back, rfl, forall_mem_cons.mpr ⟨hstops, hfront⟩, hstop⟩

/-- **A pass keeps its signals exactly when it is clear.** -/
theorem pass_keeps_iff (hfolds : FoldsLabels planner.casefold) (h : Keyed planner store) :
    PassKeeps planner pass store ↔ Clear planner pass store := by
  by_cases hrefused : pass.max_signals ≤ 0 ∨ (pass.fails .list_signals).isSome
  · obtain ⟨error, herror⟩ := pass_refused planner store hrefused
    refine ⟨fun _ => hrefused.imp_right (fun hlist => .inl hlist), fun _ => ⟨?_, ?_⟩⟩
    · intro error' store' hresult signal_id row hrow hnew
      rw [herror] at hresult
      cases hresult
      exact ⟨row, hrow, hnew⟩
    · intro hreach signal hmem
      have hmax : pass.max_signals ≤ 0 :=
        hrefused.resolve_right (fun hlist => by rw [hreach] at hlist; cases hlist)
      unfold plannable at hmem
      rw [Int.toNat_of_nonpos hmax, take_zero] at hmem
      cases hmem
  · push Not at hrefused
    obtain ⟨hmax, hlist⟩ := hrefused
    have hreach : pass.fails .list_signals = none := by simpa using hlist
    have hspec : Batch planner store (planner.batch pass store) := batch_spec h
    by_cases hgoes : ∀ signal ∈ planner.batch pass store, ¬ Stops pass signal
    · -- the pass goes through
      have hpass := pass_through hfolds h hmax hreach hgoes
      refine ⟨fun _ => .inr (.inr (.inl hgoes)), fun _ => ⟨?_, ?_⟩⟩
      · intro error store' hresult
        rw [hpass] at hresult
        cases hresult
      · intro _ signal hmem
        rw [plannable_batch hgoes] at hmem
        rw [hpass]
        exact ⟨_, fold_row planner pass store hspec.distinct hmem, handled_status⟩
    · obtain ⟨front, stop, back, hbatch, hfront, hstop⟩ := first_stop hgoes
      obtain ⟨error, herror⟩ := pass_stops hfolds h hmax hreach hbatch hfront hstop
      have hnew {signal : ProactiveSignalRecord} (hmem : signal ∈ front ++ stop :: back) :
          store.signals.row signal.signal_id = some signal ∧ signal.status = .new :=
        batch_new h (by rw [hbatch]; exact hmem)
      constructor
      · intro hkeeps
        have hearly : StopsEarly pass stop := by
          by_contra hlate
          rw [if_neg hlate] at herror
          obtain ⟨hrow, hstatus⟩ := hnew (mem_append_right _ mem_cons_self)
          obtain ⟨row', hrow', hstatus'⟩ := hkeeps.restored _ _ herror _ _ hrow hstatus
          have hplanned : row' = planned_row planner pass stop :=
            Option.some.inj (hrow'.symm.trans (row_put_self _ _ _))
          rw [hplanned] at hstatus'
          cases hstatus'
        rw [if_pos hearly] at herror
        have hnone : front = [] := by
          by_contra hsome
          obtain ⟨earlier, hearlier⟩ := exists_mem_of_ne_nil front hsome
          obtain ⟨hrow, hstatus⟩ := hnew (mem_append_left _ hearlier)
          obtain ⟨row', hrow', hstatus'⟩ := hkeeps.restored _ _ herror _ _ hrow hstatus
          have hdistinct : front.Pairwise (fun signal other => signal.signal_id ≠ other.signal_id) := by
            have hall := hspec.distinct
            rw [hbatch] at hall
            exact (pairwise_append.mp hall).1
          rw [fold_row planner pass store hdistinct hearlier] at hrow'
          rw [← Option.some.inj hrow'] at hstatus'
          exact handled_status hstatus'
        subst hnone
        refine .inr (.inr (.inr ⟨⟨stop, back, hbatch, hearly⟩, ?_⟩))
        by_contra hsome
        push Not at hsome
        obtain ⟨signal, hmem, hgoes_on⟩ := hsome
        -- the first signal at which it would not stop is plannable, and was left as it was
        obtain ⟨first, rest, hrest⟩ : ∃ first rest, (planner.signal_rows store .new).filter
            (fun signal => ¬ Stops pass signal) = first :: rest :=
          exists_cons_of_ne_nil (ne_nil_of_mem
            (mem_filter.mpr ⟨hmem, decide_eq_true hgoes_on⟩))
        have hfirst : first ∈ planner.plannable pass store := by
          unfold plannable
          obtain ⟨limit, hlimit⟩ : ∃ limit, pass.max_signals.toNat = limit + 1 :=
            ⟨pass.max_signals.toNat - 1, by omega⟩
          rw [hrest, hlimit, take_succ_cons]
          exact mem_cons_self
        obtain ⟨row, hrow, hstatus⟩ := hkeeps.goes_on hreach first hfirst
        have hlisted : first ∈ planner.signal_rows store .new :=
          mem_of_mem_filter (mem_of_mem_take hfirst)
        obtain ⟨hold, hnew_status⟩ := (mem_signal_rows h).mp hlisted
        rw [herror, foldl_nil, hold] at hrow
        rw [← Option.some.inj hrow] at hstatus
        exact hstatus hnew_status
      · intro hclear
        obtain ⟨⟨first, rest, hfirst, hearly⟩, hall⟩ : (∃ signal rest,
            planner.batch pass store = signal :: rest ∧ StopsEarly pass signal)
            ∧ ∀ signal ∈ planner.signal_rows store .new, Stops pass signal := by
          rcases hclear with hmax' | hlist' | hgoes' | hstopped
          · omega
          · exact absurd hlist' hlist
          · exact absurd hgoes' hgoes
          · exact hstopped
        have hnone : front = [] := by
          by_contra hsome
          obtain ⟨earlier, hearlier⟩ := exists_mem_of_ne_nil front hsome
          have hmem : earlier ∈ planner.batch pass store := by
            rw [hbatch]
            exact mem_append_left _ hearlier
          exact hfront earlier hearlier (hall earlier (mem_of_mem_take hmem))
        subst hnone
        rw [hbatch, nil_append] at hfirst
        obtain ⟨rfl, -⟩ := List.cons.inj hfirst
        rw [if_pos hearly, foldl_nil] at herror
        constructor
        · intro error' store' hresult signal_id row hrow hstatus
          rw [herror] at hresult
          cases hresult
          exact ⟨row, hrow, hstatus⟩
        · intro _ signal hmem
          have hfiltered := mem_filter.mp (mem_of_mem_take hmem)
          exact absurd (hall signal hfiltered.1) (of_decide_eq_true hfiltered.2)

/-! ## Runs -/

theorem Keyed.handle (hfolds : FoldsLabels planner.casefold) (h : Keyed planner store)
    (hlisted : Listed planner store signal) : Keyed planner (planner.handle pass store signal) := by
  intro signal_id row hrow
  rw [handle_row] at hrow
  split at hrow
  · next heq =>
    cases hrow
    exact ⟨handled_id.trans heq.symm, hlisted.checked.handled hfolds⟩
  · exact h signal_id row hrow

theorem Keyed.fold (hfolds : FoldsLabels planner.casefold) (h : Keyed planner store)
    (hbatch : Batch planner store signals) :
    Keyed planner (signals.foldl (planner.handle pass) store) := by
  induction signals generalizing store with
  | nil => exact h
  | cons signal rest ih =>
    exact ih (h.handle hfolds (hbatch.listed signal mem_cons_self)) hbatch.rest

theorem Keyed.put (h : Keyed planner store) {row : ProactiveSignalRecord}
    (hchecked : planner.Checked row) : Keyed planner (store.put_signal row.signal_id row) := by
  intro signal_id other hother
  have hrow : (store.signals.put row.signal_id row).row signal_id = some other := hother
  rw [row_put] at hrow
  split at hrow
  · next heq =>
    cases hrow
    exact ⟨heq.symm, hchecked⟩
  · exact h signal_id other hrow

theorem record_cases (store : SignalStore) (record : ProactiveSignalRecord) :
    store.record_signal record = store ∨ store.signals.row record.signal_id = none
      ∧ store.record_signal record = store.put_signal record.signal_id record := by
  unfold SignalStore.record_signal
  split
  · exact .inl rfl
  · split
    · exact .inl rfl
    · next hnone => exact .inr ⟨hnone, rfl⟩

variable {run : SignalRun}

theorem next_ok {intents : List ScheduledLaunchIntent}
    (h : planner.plan_new_signals pass run.store = (.ok intents, store)) :
    run.next planner (.plan_new_signals pass)
      = { store, returned := run.returned ++ [intents] } := by
  unfold SignalRun.next
  dsimp only
  rw [h]

theorem next_error {error : StoreError}
    (h : planner.plan_new_signals pass run.store = (.error error, store)) :
    run.next planner (.plan_new_signals pass) = { run with store } := by
  unfold SignalRun.next
  dsimp only
  rw [h]

theorem Keyed.next (hfolds : FoldsLabels planner.casefold) (h : Keyed planner run.store)
    (step : SignalStep planner.casefold) :
    Keyed planner (run.next planner step).store := by
  cases step with
  | record_signal signal =>
    show Keyed planner (run.store.record_signal signal.record)
    rcases record_cases run.store signal.record with hsame | ⟨-, hput⟩
    · rw [hsame]
      exact h
    · rw [hput]
      exact h.put signal.checked
  | plan_new_signals pass =>
    have hstore : (run.next planner (.plan_new_signals pass)).store
        = (planner.plan_new_signals pass run.store).2 := by
      rcases hpass : planner.plan_new_signals pass run.store with ⟨error | intents, store⟩
      · rw [next_error hpass]
      · rw [next_ok hpass]
    rw [hstore]
    by_cases hrefused : pass.max_signals ≤ 0 ∨ (pass.fails .list_signals).isSome
    · obtain ⟨error, herror⟩ := pass_refused planner run.store hrefused
      rw [herror]
      exact h
    · push Not at hrefused
      obtain ⟨hmax, hlist⟩ := hrefused
      have hreach : pass.fails .list_signals = none := by simpa using hlist
      have hspec : Batch planner run.store (planner.batch pass run.store) := batch_spec h
      by_cases hgoes : ∀ signal ∈ planner.batch pass run.store, ¬ Stops pass signal
      · rw [pass_through hfolds h hmax hreach hgoes]
        exact h.fold hfolds hspec
      · obtain ⟨front, stop, back, hbatch, hfront, hstop⟩ := first_stop hgoes
        obtain ⟨error, herror⟩ := pass_stops hfolds h hmax hreach hbatch hfront hstop
        rw [hbatch] at hspec
        have hearlier : Batch planner run.store front :=
          ⟨fun other hother => hspec.listed other (mem_append_left _ hother),
            (pairwise_append.mp hspec.distinct).1⟩
        have hstopped := (hspec.listed stop (mem_append_right _ mem_cons_self)).checked
        rw [herror]
        show Keyed planner (if StopsEarly pass stop then _ else _)
        split
        · exact h.fold hfolds hearlier
        · have hplanned : planner.Checked (planned_row planner pass stop) :=
            hstopped.planned pass hfolds
          exact (h.fold hfolds hearlier).put hplanned

theorem run_keyed (hfolds : FoldsLabels planner.casefold)
    (steps : List (SignalStep planner.casefold)) : Keyed planner (planner.run steps).store := by
  induction steps using List.reverseRecOn with
  | nil =>
    intro signal_id row hrow
    cases hrow
  | append_singleton front step ih =>
    unfold run at ih ⊢
    rw [foldl_append]
    exact Keyed.next hfolds ih step

def returns (signal_id : String) (intents : List ScheduledLaunchIntent) : Bool :=
  intents.any (fun intent => intent.trigger_id = signal_trigger_id signal_id)

/-- Every planned signal has its trigger, and one pass returned an intent for it. -/
def Accounted (run : SignalRun) : Prop :=
  ∀ signal_id row, run.store.signals.row signal_id = some row → row.status = .planned →
    (∃ trigger, run.store.triggers.row (signal_trigger_id signal_id) = some trigger
      ∧ trigger.signal_id = some signal_id ∧ trigger.status = .planned)
    ∧ (run.returned.filter (returns signal_id)).length = 1

/-- No pass returned an intent for a signal that is not planned. -/
def Unreturned (run : SignalRun) : Prop :=
  ∀ signal_id, (∀ row, run.store.signals.row signal_id = some row → row.status ≠ .planned) →
    run.returned.filter (returns signal_id) = []

theorem returns_batch {signal_id : String} :
    returns signal_id (signals.filterMap (planner.signal_intent pass)) = true
      ↔ ∃ signal ∈ signals, signal.signal_id = signal_id ∧ cooling pass signal = false
          ∧ signal.session_id ≠ none := by
  unfold returns
  rw [any_eq_true]
  constructor
  · rintro ⟨intent, hmem, hid⟩
    obtain ⟨signal, hsignal, hintent⟩ := mem_filterMap.mp hmem
    unfold signal_intent at hintent
    split at hintent
    · cases hintent
    · next hcooling =>
      obtain ⟨session_id, hsession, rfl⟩ := Option.map_eq_some_iff.mp hintent
      refine ⟨signal, hsignal, trigger_id_inj (of_decide_eq_true hid), by simpa using hcooling, ?_⟩
      rw [hsession]
      exact Option.some_ne_none _
  · rintro ⟨signal, hsignal, rfl, hcooling, hsession⟩
    obtain ⟨session_id, hnamed⟩ := Option.ne_none_iff_exists'.mp hsession
    refine ⟨intent_of (planned_row planner pass signal) (signal_trigger planner pass signal)
      session_id (planner.launch_fields (planned_row planner pass signal)),
      mem_filterMap.mpr ⟨signal, hsignal, ?_⟩, decide_eq_true rfl⟩
    unfold signal_intent
    rw [if_neg (by rw [hcooling]; exact Bool.false_ne_true), hnamed]
    rfl

/-- What a run owes at each of its states. -/
structure Tracked (planner : SignalPlanner) (run : SignalRun) : Prop where
  keyed : Keyed planner run.store
  accounted : Accounted run
  unreturned : Unreturned run

section

variable (hfolds : FoldsLabels planner.casefold) (h : Tracked planner run)

include hfolds h

theorem Tracked.record (signal : NewSignal planner.casefold) :
    Tracked planner (run.next planner (.record_signal signal)) := by
  refine ⟨h.keyed.next hfolds (.record_signal signal), ?_, ?_⟩
  · intro signal_id row hrow hplanned
    have hstore : (run.store.record_signal signal.record).signals.row signal_id = some row := hrow
    show (∃ trigger, (run.store.record_signal signal.record).triggers.row _ = _ ∧ _) ∧ _
    rcases record_cases run.store signal.record with hsame | ⟨-, hput⟩
    · rw [hsame] at hstore ⊢
      exact h.accounted signal_id row hstore hplanned
    · rw [hput] at hstore ⊢
      have hwritten : (run.store.signals.put signal.record.signal_id signal.record).row signal_id
          = some row := hstore
      rw [row_put] at hwritten
      split at hwritten
      · cases hwritten
        rw [signal.is_new] at hplanned
        cases hplanned
      · exact h.accounted signal_id row hwritten hplanned
  · intro signal_id hunplanned
    refine h.unreturned signal_id (fun row hrow hplanned => ?_)
    have hkept : (run.store.record_signal signal.record).signals.row signal_id = some row := by
      rcases record_cases run.store signal.record with hsame | ⟨hnone, hput⟩
      · rw [hsame]
        exact hrow
      · rw [hput]
        show (run.store.signals.put signal.record.signal_id signal.record).row signal_id = some row
        rw [row_put, if_neg (fun heq => by rw [heq, hnone] at hrow; cases hrow)]
        exact hrow
    exact hunplanned row hkept hplanned

/-- A pass that stops nowhere plans its signals, each with its trigger and its intent. -/
theorem Tracked.through (hmax : 0 < pass.max_signals) (hreach : pass.fails .list_signals = none)
    (hgoes : ∀ signal ∈ planner.batch pass run.store, ¬ Stops pass signal) :
    Tracked planner (run.next planner (.plan_new_signals pass)) := by
  have hspec : Batch planner run.store (planner.batch pass run.store) := batch_spec h.keyed
  have hkeyed := h.keyed.next hfolds (.plan_new_signals pass)
  rw [next_ok (pass_through hfolds h.keyed hmax hreach hgoes)] at hkeyed ⊢
  -- before the pass no signal of the batch was planned, and none had an intent
  have hbefore {signal : ProactiveSignalRecord} (hmem : signal ∈ planner.batch pass run.store) :
      run.returned.filter (returns signal.signal_id) = [] := by
    obtain ⟨hrow, hnew⟩ := batch_new h.keyed hmem
    refine h.unreturned _ (fun row hrow' hplanned => ?_)
    rw [hrow] at hrow'
    rw [← Option.some.inj hrow', hnew] at hplanned
    cases hplanned
  have hreturns {signal : ProactiveSignalRecord} (hmem : signal ∈ planner.batch pass run.store) :
      returns signal.signal_id ((planner.batch pass run.store).filterMap (planner.signal_intent pass))
        = true ↔ cooling pass signal = false := by
    rw [returns_batch]
    constructor
    · rintro ⟨other, hother, hid, hcooling, -⟩
      have hsame : other = signal := by
        have hrow := (hspec.listed other hother).row
        rw [hid, (hspec.listed signal hmem).row] at hrow
        exact (Option.some.inj hrow).symm
      rw [← hsame]
      exact hcooling
    · intro hcooling
      refine ⟨signal, hmem, rfl, hcooling, fun hnone => ?_⟩
      exact hgoes signal hmem (.inl (.inl ⟨hcooling, hnone⟩))
  refine ⟨hkeyed, ?_, ?_⟩
  · intro signal_id row hrow hplanned
    dsimp only at hrow ⊢
    by_cases hmem : ∃ signal ∈ planner.batch pass run.store, signal.signal_id = signal_id
    · obtain ⟨signal, hmem, rfl⟩ := hmem
      rw [fold_row planner pass _ hspec.distinct hmem] at hrow
      have hcooling : cooling pass signal = false := by
        rw [← Option.some.inj hrow] at hplanned
        unfold handled at hplanned
        split at hplanned
        · cases hplanned
        · next hcooling => simpa using hcooling
      refine ⟨⟨_, fold_trigger planner pass _ hspec.distinct hmem hcooling, rfl, rfl⟩, ?_⟩
      rw [filter_append, hbefore hmem, nil_append,
        filter_cons_of_pos ((hreturns hmem).mpr hcooling)]
      rfl
    · push Not at hmem
      have hother : ∀ signal ∈ planner.batch pass run.store, signal_id ≠ signal.signal_id :=
        fun signal hsignal heq => hmem signal hsignal heq.symm
      rw [fold_row_other planner pass _ hother] at hrow
      have hnone : ¬ returns signal_id ((planner.batch pass run.store).filterMap
          (planner.signal_intent pass)) = true := by
        rw [returns_batch]
        rintro ⟨signal, hsignal, hid, -⟩
        exact hmem signal hsignal hid
      obtain ⟨htrigger, hcount⟩ := h.accounted signal_id row hrow hplanned
      refine ⟨?_, ?_⟩
      · rw [fold_trigger_other planner pass _ hother]
        exact htrigger
      · rw [filter_append, filter_cons_of_neg hnone, filter_nil, append_nil]
        exact hcount
  · intro signal_id hunplanned
    dsimp only at hunplanned ⊢
    by_cases hmem : ∃ signal ∈ planner.batch pass run.store, signal.signal_id = signal_id
    · obtain ⟨signal, hmem, rfl⟩ := hmem
      have hcooling : ¬ cooling pass signal = false := by
        intro hcooling
        refine hunplanned _ (fold_row planner pass _ hspec.distinct hmem) ?_
        unfold handled
        rw [if_neg (by rw [hcooling]; exact Bool.false_ne_true)]
        rfl
      rw [filter_append, hbefore hmem, nil_append,
        filter_cons_of_neg (fun hreturned => hcooling ((hreturns hmem).mp hreturned)),
        filter_nil]
    · push Not at hmem
      have hother : ∀ signal ∈ planner.batch pass run.store, signal_id ≠ signal.signal_id :=
        fun signal hsignal heq => hmem signal hsignal heq.symm
      have hnone : ¬ returns signal_id ((planner.batch pass run.store).filterMap
          (planner.signal_intent pass)) = true := by
        rw [returns_batch]
        rintro ⟨signal, hsignal, hid, -⟩
        exact hmem signal hsignal hid
      rw [filter_append, filter_cons_of_neg hnone, filter_nil, append_nil]
      refine h.unreturned signal_id (fun row hrow => hunplanned row ?_)
      rw [fold_row_other planner pass _ hother]
      exact hrow

theorem Tracked.clear (hclear : Clear planner pass run.store) :
    Tracked planner (run.next planner (.plan_new_signals pass)) := by
  by_cases hrefused : pass.max_signals ≤ 0 ∨ (pass.fails .list_signals).isSome
  · obtain ⟨error, herror⟩ := pass_refused planner run.store hrefused
    rw [next_error herror]
    exact h
  · push Not at hrefused
    obtain ⟨hmax, hlist⟩ := hrefused
    have hreach : pass.fails .list_signals = none := by simpa using hlist
    by_cases hgoes : ∀ signal ∈ planner.batch pass run.store, ¬ Stops pass signal
    · exact h.through hfolds hmax hreach hgoes
    · obtain ⟨⟨first, rest, hbatch, hearly⟩, hall⟩ : (∃ signal rest,
          planner.batch pass run.store = signal :: rest ∧ StopsEarly pass signal)
          ∧ ∀ signal ∈ planner.signal_rows run.store .new, Stops pass signal := by
        rcases hclear with hmax' | hlist' | hgoes' | hstopped
        · omega
        · exact absurd hlist' hlist
        · exact absurd hgoes' hgoes
        · exact hstopped
      have hnothing : ∀ earlier ∈ ([] : List ProactiveSignalRecord), ¬ Stops pass earlier :=
        fun _ hmem => by cases hmem
      obtain ⟨error, herror⟩ := pass_stops hfolds h.keyed hmax hreach hbatch hnothing (.inl hearly)
      rw [if_pos hearly, foldl_nil] at herror
      rw [next_error herror]
      exact h

end

/-- What the runs of the planner are to keep. -/
structure SignalsKept (planner : SignalPlanner) (steps : List (SignalStep planner.casefold)) :
    Prop where
  passes : ∀ front pass back, steps = front ++ .plan_new_signals pass :: back →
    PassKeeps planner pass (planner.run front).store
  accounted : ∀ front back, steps = front ++ back → Accounted (planner.run front)

/-- **No signal is lost or blocked exactly when every pass is clear**, by induction on the run. -/
theorem signals_kept_iff (hfolds : FoldsLabels planner.casefold)
    (steps : List (SignalStep planner.casefold)) :
    SignalsKept planner steps ↔ ∀ front pass back,
      steps = front ++ .plan_new_signals pass :: back →
        Clear planner pass (planner.run front).store := by
  constructor
  · intro hkept front pass back heq
    exact (pass_keeps_iff hfolds (run_keyed hfolds front)).mp (hkept.passes front pass back heq)
  · intro hclear
    refine ⟨fun front pass back heq => ?_, fun front back heq => ?_⟩
    · exact (pass_keeps_iff hfolds (run_keyed hfolds front)).mpr (hclear front pass back heq)
    · have htracked : Tracked planner (planner.run front) := by
        induction front using List.reverseRecOn generalizing back with
        | nil =>
          refine ⟨run_keyed hfolds [], ?_, fun _ _ => rfl⟩
          intro signal_id row hrow
          cases hrow
        | append_singleton front step ih =>
          rw [append_assoc] at heq
          have hbefore := ih _ heq
          unfold run at hbefore ⊢
          rw [foldl_append]
          cases step with
          | record_signal signal => exact hbefore.record hfolds signal
          | plan_new_signals pass => exact hbefore.clear hfolds (hclear front pass back heq)
      exact htracked.accounted

/-! ### Two runs -/

def sample_planner : SignalPlanner where
  casefold := id
  collate := fun text other => text ≤ other
  cooldown := 900
  positive := by decide

def sample_signal (signal_id : String) (observed_at : Datetime) (session_id : Option String)
    (checked : ProactiveSignalRecord.post_init id
      { signal_id, dedupe_key := signal_id, kind := "repo_activity", status := .new, observed_at,
        summary := "changes", session_id } = .ok () := by decide +kernel) :
    NewSignal sample_planner.casefold where
  record :=
    { signal_id, dedupe_key := signal_id, kind := "repo_activity", status := .new, observed_at,
      summary := "changes", session_id }
  is_new := rfl
  checked := checked

def kept_steps : List (SignalStep sample_planner.casefold) :=
  [.record_signal (sample_signal "a" 1 (some "s")), .record_signal (sample_signal "b" 2 (some "s")),
   .plan_new_signals { now := 10, max_signals := 5 }]

def lost_steps : List (SignalStep sample_planner.casefold) :=
  [.record_signal (sample_signal "a" 1 (some "s")), .record_signal (sample_signal "b" 2 none),
   .plan_new_signals { now := 10, max_signals := 5 }]

theorem signals_kept_iff_two : SignalsKept sample_planner kept_steps := by
  refine (signals_kept_iff (fun _ _ => rfl) kept_steps).mpr ?_
  intro front pass back heq
  rcases front with _ | ⟨first, _ | ⟨second, _ | ⟨third, rest⟩⟩⟩
  · cases heq
  · cases heq
  · cases heq
    refine .inr (.inr (.inl ?_))
    decide +kernel
  · have hlength := congrArg List.length heq
    simp [kept_steps] at hlength

theorem signals_lost : ¬ SignalsKept sample_planner lost_steps := by
  intro hkept
  have hplanned : ((sample_planner.run lost_steps).store.signals.row "a").map (·.status)
      = some .planned := by decide +kernel
  have hreturned : (sample_planner.run lost_steps).returned = [] := by decide +kernel
  obtain ⟨row, hrow, hstatus⟩ := Option.map_eq_some_iff.mp hplanned
  have hcount := (hkept.accounted lost_steps [] rfl "a" row hrow hstatus).2
  rw [hreturned] at hcount
  cases hcount

end SignalPlanner

end CodingAgentLoop
