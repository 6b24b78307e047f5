import RgbppIndexer.Indexer.Flows

/-!
# An older answer overwrites a newer one

`upsert_observation` (crates/store/src/btc.rs:62-91) writes whatever answer
it is given and stamps it `observed_at = now()`. Nothing in the row says when
the question was asked, so of two flows on one outpoint the one that writes
last wins, also when its answer is the older one.

An answer is meant to be dated by its question: `OutpointObservation` is "a
point-in-time answer about one outpoint", stamped when it is made
(crates/btc/src/source.rs:69-89), and the queue worker drops a re-check
because "an observation younger than the TTL is still authoritative"
(crates/indexer/src/reconcile.rs:467-470). The write drops that date.

Counterexample: flow 0 asks and is told `Unspent`; the outpoint is spent;
flow 1 asks, is told so and writes; then flow 0 writes. The row says
`Unspent`, observed last (`older_answer_wins`).

* `holds_lastAsked_iff`: **after all flows have written, the row holds the
  answer of the most recent question exactly when the flow that wrote last
  carried that answer.**
-/
namespace RgbppIndexer.Bugs.StaleAnswer

open RgbppIndexer.Core Flows

/-- **The runs that end with the newest answer.** -/
theorem holds_lastAsked_iff {o : BtcOutPoint} {w w' : World} {events : List Event} {newest : OutpointSpendStatus}
    (hrun : (flows o).Run w events w') (hdone : w'.waiting = []) (hasked : lastAsked events = some newest) :
    Holds o newest w'.store ↔ lastWritten events = some newest := by
  obtain ⟨written, hwritten⟩ := exists_lastWritten hrun hdone hasked
  have hholds := holds_lastWritten hrun hwritten
  constructor
  · intro h
    rw [hwritten, hholds.unique h]
  · intro h
    exact holds_lastWritten hrun h

/-! ## The counterexample -/

def outpoint : BtcOutPoint := ⟨.placeholder, 0⟩

def spent : OutpointSpendStatus := .spentUnconfirmed ⟨.filled 32 9⟩

/-- A reconciler; its data source is not asked again here. -/
def reconciler : Reconciler where
  config := .testnet 64
  btc :=
    { name := "esplora"
      moment := fun _ =>
        { transaction := fun _ => .ok none
          outpointStatus := fun _ => .ok .unknown
          txOutspends := fun _ => .ok none
          addressUtxos := fun _ => .ok [] } }
  completion := .inOrder
  now := 0

/-- Two flows; the one that asked first writes last. -/
def overtaken : List Event := [.ask 0 .unspent, .ask 1 spent, .write 1 spent, .write 0 .unspent]

def afterNewest : Store := (reconciler.recordObservation .empty outpoint spent none).1

def afterOldest : Store := (reconciler.recordObservation afterNewest outpoint .unspent none).1

theorem overtaken_run : (flows outpoint).Run ⟨.empty, []⟩ overtaken ⟨afterOldest, []⟩ :=
  Lts.Run.cons (t := ⟨.empty, [(0, .unspent)]⟩) ⟨by decide, rfl⟩ <|
  Lts.Run.cons (t := ⟨.empty, [(0, .unspent), (1, spent)]⟩) ⟨by decide, rfl⟩ <|
  Lts.Run.cons (t := ⟨afterNewest, [(0, .unspent)]⟩) ⟨by decide +kernel, reconciler, rfl⟩ <|
  Lts.Run.single ⟨by decide +kernel, reconciler, rfl⟩

/-- **The older answer wins**: both flows have written, and the row does not hold the newest answer. -/
theorem older_answer_wins :
    (flows outpoint).Run ⟨.empty, []⟩ overtaken ⟨afterOldest, []⟩ ∧ lastAsked overtaken = some spent ∧
      ¬ Holds outpoint spent afterOldest := by
  refine ⟨overtaken_run, rfl, fun h => ?_⟩
  have hunspent : Holds outpoint .unspent afterOldest := holds_recordObservation reconciler afterNewest .unspent
  have heq := h.unique hunspent
  cases heq

/-- The overtaken run, read through the condition. -/
theorem holds_lastAsked_iff_overtaken :
    Holds outpoint spent afterOldest ↔ lastWritten overtaken = some spent :=
  holds_lastAsked_iff overtaken_run rfl rfl

end RgbppIndexer.Bugs.StaleAnswer
