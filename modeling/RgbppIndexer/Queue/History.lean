import RgbppIndexer.Queue.Entry

/-!
# What has happened to an outpoint

Facts about the actions so far: who asked for the entry of an outpoint since
it was created, and how the outpoint came to the phase it is in.

* `Story`: the path of an outpoint through the drain it is in, as actions.
* `story_of_run`: in every run, the phase of an outpoint tells its story.
-/
namespace RgbppIndexer.Queue

open RgbppIndexer.Core

/-- The action deletes the entry of `key`, if there is one. -/
def Action.Deletes (key : OutpointKey) : Action → Prop
  | .drop dropped => key ∈ dropped
  | .clear o => o.key = key
  | .complete o => o.key = key
  | _ => False

/-- The action queues the outpoint of `key` on behalf of `origin`. -/
def Action.Requests (origin : Origin) (key : OutpointKey) : Action → Prop
  | .enqueue origin' o _ _ _ => origin' = origin ∧ o.key = key
  | _ => False

/-- `origin` asked for the outpoint since its entry was created. -/
def RequestedBy (origin : Origin) (key : OutpointKey) : List Action → Prop :=
  After (fun _ => True) (Action.Requests origin key) fun b => ¬ b.Deletes key

/-- Nobody but the sweep asked for the outpoint since its entry was created. -/
def SweepOnly (key : OutpointKey) (history : List Action) : Prop :=
  RequestedBy .sweep key history ∧ ¬ RequestedBy .application key history

/-! ## The drain an outpoint is in -/

/-- The action neither starts a drain nor ends one. -/
def Action.InDrain : Action → Prop
  | .drop _ => False
  | .claim .. => False
  | .abort => False
  | _ => True

/-- The drain claimed the outpoint. -/
def Claimed (o : BtcOutPoint) : List Action → Prop := After (fun _ => True) (Action.Claims o.key) Action.InDrain

/-- After the claim the drain read the observation of the outpoint as fresh. -/
def FoundFresh (o : BtcOutPoint) : List Action → Prop :=
  After (Claimed o) (fun a => ∃ fresh now, a = .read fresh now ∧ o ∈ fresh) Action.InDrain

/-- After the claim the data source was asked about the outpoint, and answered. -/
def Asked (o : BtcOutPoint) (status : OutpointSpendStatus) : List Action → Prop :=
  After (Claimed o) (fun a => a = .ask o (.ok status)) Action.InDrain

/-- The answer was written. -/
def Recorded (o : BtcOutPoint) (status : OutpointSpendStatus) : List Action → Prop :=
  After (Asked o status) (fun a => ∃ source now, a = .record o status source now) Action.InDrain

/-- How an outpoint came to its phase. -/
def Story (o : BtcOutPoint) (history : List Action) : Phase → Prop
  | .claimed => Claimed o history
  | .waiting => Claimed o history
  | .fresh => FoundFresh o history
  | .answered status => Asked o status history
  | .recorded => ∃ status, Recorded o status history
  | _ => True

section
variable {o : BtcOutPoint} {history : List Action} {p p' : Phase} {a : Action} {q : DrainConfig} {cap : Nat}
  {s s' : State}

theorem Story.same (h : Story o history p) (ha : a.InDrain) : Story o (history ++ [a]) p := by
  cases p with
  | claimed => exact After.snoc h ha
  | waiting => exact After.snoc h ha
  | fresh => exact After.snoc h ha
  | answered status => exact After.snoc h ha
  | recorded =>
    obtain ⟨status, h⟩ := h
    exact ⟨status, h.snoc ha⟩
  | out => trivial
  | unanswered => trivial
  | missed => trivial

theorem Action.inDrain_of_not_concerns (ha : ¬ a.Concerns o) : a.InDrain := by
  cases a with
  | drop => exact ha trivial
  | claim => exact ha trivial
  | abort => exact ha trivial
  | _ => trivial

theorem Story.moves (h : Story o history p) (hmoves : a.Moves o p p') : Story o (history ++ [a]) p' := by
  by_cases hconcerns : a.Concerns o
  · cases a with
    | drop dropped =>
      obtain ⟨rfl, rfl⟩ := hmoves
      trivial
    | claim rows batch now =>
      obtain ⟨rfl, hp'⟩ := hmoves
      rcases hp' with rfl | ⟨rfl, hbatch⟩
      · trivial
      · exact After.now trivial hbatch
    | read fresh now =>
      rcases hmoves with ⟨rfl, hfresh, rfl⟩ | ⟨rfl, -, rfl⟩ | ⟨rfl, rfl⟩
      · exact After.now h ⟨fresh, now, rfl, hfresh⟩
      · exact h.same (p := .waiting) trivial
      · trivial
    | clear o' =>
      obtain rfl : o' = o := hconcerns
      rw [Action.Moves, if_pos rfl] at hmoves
      rw [hmoves.2]
      trivial
    | overflow outpoints now =>
      rw [Action.Moves, if_pos (show o ∈ outpoints from hconcerns)] at hmoves
      rw [hmoves.2]
      trivial
    | ask o' answer =>
      obtain rfl : o' = o := hconcerns
      rw [Action.Moves, if_pos rfl] at hmoves
      obtain ⟨rfl, rfl⟩ := hmoves
      cases answer with
      | ok status => exact After.now h rfl
      | error e => trivial
    | record o' status source now =>
      obtain rfl : o' = o := hconcerns
      rw [Action.Moves, if_pos rfl] at hmoves
      obtain ⟨rfl, rfl⟩ := hmoves
      exact ⟨status, After.now h ⟨source, now, rfl⟩⟩
    | requeue o' now =>
      obtain rfl : o' = o := hconcerns
      rw [Action.Moves, if_pos rfl] at hmoves
      rw [hmoves.2]
      trivial
    | complete o' =>
      obtain rfl : o' = o := hconcerns
      rw [Action.Moves, if_pos rfl] at hmoves
      rw [hmoves.2]
      trivial
    | fail o' =>
      obtain rfl : o' = o := hconcerns
      rw [Action.Moves, if_pos rfl] at hmoves
      rw [hmoves.2]
      trivial
    | abort =>
      rw [show p' = .out from hmoves]
      trivial
    | enqueue => exact (show p' = p from hmoves) ▸ h.same trivial
    | next => cases hconcerns
    | observe => cases hconcerns
    | label => cases hconcerns
    | other => cases hconcerns
  · rw [hmoves.other hconcerns]
    exact h.same (Action.inDrain_of_not_concerns hconcerns)

/-- In every run the phase of an outpoint tells its story. -/
theorem story_of_run (hrun : (queue q cap).Run ⟨.empty, .idle⟩ history s) (o : BtcOutPoint) :
    s.worker.Valid ∧ Story o history (s.worker.phase o) := by
  have hinit : Worker.idle.Valid ∧ Story o [] (Worker.idle.phase o) := ⟨trivial, trivial⟩
  refine hrun.keeps_history (I := fun ls t => t.worker.Valid ∧ Story o ls (t.worker.phase o)) ?_ hinit
  intro ls t a t' ht hstep
  exact ⟨step_valid ht.1 hstep, ht.2.moves (step_phase ht.1 hstep o)⟩

end
end RgbppIndexer.Queue
