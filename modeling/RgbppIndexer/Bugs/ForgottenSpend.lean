import RgbppIndexer.Btc.Blockbook
import RgbppIndexer.Indexer.System

/-!
# An answer of `Unknown` revives a spent outpoint

`README.md` promises that a known-spent outpoint whose spender cannot be
resolved stays `unknown` "so a cell that has already moved is never
resurrected", and `BlockbookSource::outpoint_status` answers `Unknown` for
that reason. But `upsert_observation` (`crates/store/src/btc.rs`) writes every
answer over the row, and `rgbpp_cell_status` reads a row that says `unknown`
as `live`: the answer that was chosen not to revive the cell revives it.

* `notLive_iff`: **after a recorded spend, and no answer of `Unspent`, an
  unconsumed cell bound to the outpoint stays out of `live` exactly when the
  last answer was not `Unknown`.**
-/
namespace RgbppIndexer.Bugs.ForgottenSpend

open RgbppIndexer.Core Observations

section
variable {cfg : Config} {errorText : IndexerError → String} {st st' : Store} {key : OutpointKey} {event : Event}
  {events : List Event}

/-- A spend was recorded, and since then no answer said `Unspent`. -/
def SpentBefore (key : OutpointKey) (events : List Event) : Prop :=
  After (fun _ => True) (fun event => ∃ status, answerFor key event = some status ∧ status.isSpent = true)
    (fun event => answerFor key event ≠ some .unspent) events

/-- The last answer is then a spend, or it is `Unknown`. -/
theorem SpentBefore.lastAnswer (h : SpentBefore key events) :
    ∃ status, lastAnswer key events = some status ∧ (status.isSpent = true ∨ status = .unknown) := by
  obtain ⟨past, spend, later, rfl, -, ⟨status, hstatus, hspent⟩, hlater⟩ := h
  induction later using List.reverseRecOn with
  | nil => exact ⟨status, by rw [lastAnswer_snoc, hstatus, Option.some_or], .inl hspent⟩
  | append_singleton later event ih =>
    have hevent := hlater event (List.mem_append_right _ (List.mem_singleton.mpr rfl))
    obtain ⟨last, hlast, hkind⟩ := ih fun e he => hlater e (List.mem_append_left _ he)
    rw [← List.cons_append, ← List.append_assoc, lastAnswer_snoc]
    cases hanswer : answerFor key event with
    | none => exact ⟨last, by rw [hlast, Option.none_or], hkind⟩
    | some answer =>
      refine ⟨answer, by rw [Option.some_or], ?_⟩
      cases answer with
      | unspent => exact absurd hanswer hevent
      | unknown => exact .inr rfl
      | spentUnconfirmed => exact .inl rfl
      | spentConfirmed => exact .inl rfl

/-- **When a recorded spend is forgotten**: exactly when the last answer is `Unknown`. -/
theorem notLive_iff [Sha2] (hrun : (indexer cfg errorText).Run .empty events st) (hspent : SpentBefore key events)
    {k : CellKey} {c : CellRecord} (hc : st.rgbppCells.get? k = some c) (hbound : BoundUnconsumed key c) :
    ((st.rgbppCellStatus k c).status ≠ .live ∧ ∀ outpoints, st.rgbppCellStatus k c ∉ st.balanceRows outpoints false) ↔
      lastAnswer key events ≠ some .unknown := by
  obtain ⟨status, hlast, hkind⟩ := hspent.lastAnswer
  have hanswered := answered_of_run hrun hlast
  have hview := status_of_answered hanswered (k := k) hbound
  rcases hkind with hkind | rfl
  · have hknown : lastAnswer key events ≠ some .unknown := by
      rw [hlast]
      intro h
      cases h
      cases hkind
    exact iff_of_true (notLive_of_answered hanswered hkind k c hc hbound) hknown
  · refine iff_of_false (fun h => h.1 hview) fun h => h hlast

end

/-! ## The counterexample -/

section
open Sample

local instance : Sha2 := .standard

/-- Blockbook knows that the output is spent, and refuses to hand out the history of its address. -/
def overloaded : Blockbook.Http where
  tx _ := .ok (some { txid := "", vin := [], vout := [⟨0, ["tb1q"], true⟩], blockHeight := some 1 })
  address _ _ := .error (.rateLimited "/address")

def spent : OutpointSpendStatus := .spentConfirmed spender 100

/-- The cell is indexed, its outpoint is reported spent, and then `Unknown`. -/
def answers (last : OutpointSpendStatus) : List Event :=
  [.scan (env (chain.serve 2)), .observe outpoint.key spent none "blockbook" 0, .observe outpoint.key last none "blockbook" 0]

def answersStore (last : OutpointSpendStatus) : Store := (answers last).foldl (apply (.testnet 64) fun _ => "") .empty

theorem answers_run (last : OutpointSpendStatus) :
    (indexer (.testnet 64) fun _ => "").Run .empty (answers last) (answersStore last) :=
  .cons rfl (.cons rfl (.single rfl))

theorem answers_spentBefore {last : OutpointSpendStatus} (h : last ≠ .unspent) : SpentBefore outpoint.key (answers last) := by
  refine ⟨[.scan (env (chain.serve 2))], _, _, rfl, trivial, ⟨spent, by simp [answerFor], rfl⟩, ?_⟩
  intro event hevent
  rw [List.mem_singleton.mp hevent]
  simpa [answerFor] using h

theorem answers_bound (last : OutpointSpendStatus) :
    ∃ c, (answersStore last).rgbppCells.get? cell.key = some c ∧ BoundUnconsumed outpoint.key c := by
  have hany : ((scannerStep (.testnet 64) (env (chain.serve 2)) (fun _ => "") .empty).rgbppCells.get? cell.key).any
      (fun c => decide (BoundUnconsumed outpoint.key c)) = true := by decide +kernel
  obtain ⟨c, hc, hbound⟩ := (Option.any_eq_true ..).mp hany
  refine ⟨c, ?_, decide_eq_true_eq.mp hbound⟩
  rw [answersStore, answers, List.foldl_cons, List.foldl_cons, List.foldl_cons, List.foldl_nil, apply, apply, apply,
    Store.upsertObservation_rgbppCells, Store.upsertObservation_rgbppCells]
  exact hc

/-- **The known spend is forgotten**: the backend knows the output to be spent, answers `Unknown`, and the cell that
was `pending_ckb` is `live`. -/
theorem unknown_revives :
    Blockbook.outpointStatus overloaded outpoint = .ok .unknown ∧
      (indexer (.testnet 64) fun _ => "").Run .empty (answers .unknown) (answersStore .unknown) ∧
      SpentBefore outpoint.key (answers .unknown) ∧ ¬ NotLive outpoint.key (answersStore .unknown) := by
  refine ⟨?_, answers_run _, answers_spentBefore (by decide), fun hall => ?_⟩
  · exact Blockbook.outpointStatus_of_spent_unresolved rfl rfl rfl rfl fun p => ⟨_, rfl⟩
  · obtain ⟨c, hc, hbound⟩ := answers_bound .unknown
    obtain ⟨hlive, -⟩ := hall cell.key c hc hbound
    have hanswered : Answered outpoint.key .unknown (answersStore .unknown) :=
      answered_of_run (answers_run _) (by simp [lastAnswer, answers, answerFor])
    exact hlive (status_of_answered hanswered hbound)

/-- A second report of the spend keeps the cell out. -/
theorem notLive_iff_spent : ∃ c, (answersStore spent).rgbppCells.get? cell.key = some c ∧
    ((((answersStore spent).rgbppCellStatus cell.key c).status ≠ .live ∧
      ∀ outpoints, (answersStore spent).rgbppCellStatus cell.key c ∉ (answersStore spent).balanceRows outpoints false) ↔
      lastAnswer outpoint.key (answers spent) ≠ some .unknown) := by
  obtain ⟨c, hc, hbound⟩ := answers_bound spent
  exact ⟨c, hc, notLive_iff (answers_run spent) (answers_spentBefore (by decide)) hc hbound⟩

end
end RgbppIndexer.Bugs.ForgottenSpend
