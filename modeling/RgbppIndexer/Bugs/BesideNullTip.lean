import RgbppIndexer.Bugs.UnreachedRange
import RgbppIndexer.Scan.Interleaving

/-!
# Two scanners, and an indexer without a tip

`scan-once` may run beside `run` (crates/node/src/main.rs): each round reads the
checkpoint and the rows it resolves against while the other commits, and only
the batch is one transaction (`apply_batch`, crates/store/src/cells.rs:24-69).
Inserts and spends take what is written on chain, so the order of the commits
does not show in the rows; the checkpoint alone may move back. What does show is
the fallback of `synced_tip` (crates/ckb/src/client.rs:76-87): when the rich
indexer reports no tip, a range it has not populated is committed as empty, and
the issuance in it has no row.

* `rows_of_run`: **in runs whose rounds all read a tip, the rows are those of
  the reference pass up to the highest checkpoint, and none is lost**, for any
  number of scanners and any order of their statements.
* `issuance_missing`: the round that reads none.
-/
namespace RgbppIndexer.Bugs.BesideNullTip

open RgbppIndexer.Core

/-- A round that starts is told a tip by the rich indexer. -/
def ReportsTip {ι : Type} : Workers.Event ι ScanEnv → Prop
  | .start _ env => env.replies.getIndexerTip ≠ .ok none
  | .next _ => True

section
variable [Sha2] {ι : Type} [DecidableEq ι] {cfg : Config} {ch : Chain} {listed : Entry → Prop}
  {errorText : IndexerError → String} {w w' w'' : Workers ι Shared IndexerError ScanRound}
  {events later : List (Workers.Event ι ScanEnv)}

/-- A run keeps what every scanner keeps. -/
theorem keep_of_run (h : w.Keep (scanRely cfg ch listed))
    (hrun : ((scanners ι cfg errorText).restrict fun _ e => ReportsTip e).Run w events w')
    (hendpoints : ∀ i env, .start i env ∈ events → Endpoints cfg ch listed env) :
    w'.Keep (scanRely cfg ch listed) ∧ (scanRely cfg ch listed).Moves w.shared w'.shared := by
  obtain ⟨hplain, htips⟩ := Lts.run_restrict_iff.mp hrun
  exact keeps_of_run hplain h fun i env hmem s _ =>
    scannerProgram_keeps (hendpoints i env hmem) (htips _ hmem) errorText s

theorem keep_of_init (h : (scanners ι cfg errorText).init w) : w.Keep (scanRely cfg ch listed) := by
  obtain ⟨hfresh, hdone⟩ := h
  refine keep_of_done ?_ hdone
  rw [show w.shared = _ from hfresh]
  exact Shared.Indexed.init

/-- **The rows are those of the reference pass up to the highest checkpoint**, and between any two moments no row is
lost. The commitment of a transition too, where the rich indexer always lists its inputs in one order. -/
theorem rows_of_run (hinit : (scanners ι cfg errorText).init w)
    (hserves : ∀ i env, .start i env ∈ events ++ later → Serves ch env.replies ∧ IndexerComplete ch env.replies)
    (hrun : ((scanners ι cfg errorText).restrict fun _ e => ReportsTip e).Run w events w')
    (hlater : ((scanners ι cfg errorText).restrict fun _ e => ReportsTip e).Run w' later w'') :
    ch.EqualsReference cfg cfg.firstBlock (w''.shared.highest cfg) w''.shared.store ∧
      RowsKept w'.shared.store w''.shared.store ∧
      ∀ order, (∀ i env, .start i env ∈ events ++ later → Lists cfg ch (InOrder order) env) →
        TransitionsInOrder cfg ch order w''.shared.store ∧
        ∀ key row, w'.shared.store.rgbppTransitions.get? key = some row →
          w''.shared.store.rgbppTransitions.get? key = some row := by
  have hkept : ∀ listed : Entry → Prop, (∀ i env, .start i env ∈ events ++ later → Lists cfg ch listed env) →
      w'.Keep (scanRely cfg ch listed) ∧ w''.Keep (scanRely cfg ch listed) ∧
      (scanRely cfg ch listed).Moves w'.shared w''.shared := by
    intro listed hlists
    have hendpoints : ∀ i env, .start i env ∈ events ++ later → Endpoints cfg ch listed env := fun i env hmem =>
      ⟨(hserves i env hmem).1, (hserves i env hmem).2, hlists i env hmem⟩
    have hkeep := (keep_of_run (keep_of_init hinit) hrun fun i env hmem =>
      hendpoints i env (List.mem_append_left _ hmem)).1
    exact ⟨hkeep, keep_of_run hkeep hlater fun i env hmem => hendpoints i env (List.mem_append_right _ hmem)⟩
  obtain ⟨-, hkeep, -, hrows⟩ := hkept (fun _ => True) fun _ _ _ _ _ _ _ _ _ _ _ => trivial
  refine ⟨hkeep.inv.equalsReference, hrows, fun order hlists => ?_⟩
  obtain ⟨hkeep', hkeep'', -, hrows'⟩ := hkept (InOrder order) hlists
  have horder' := hkeep'.inv.inOrder
  have horder'' := hkeep''.inv.inOrder
  refine ⟨horder'', fun key row hrow => ?_⟩
  obtain ⟨row'', hrow'', -⟩ := hrows'.transitions key row hrow
  rw [hrow'', horder'.unique horder'' hrow hrow'']

end

/-! ## The counterexample -/

section
open Sample

local instance besideHash : Sha2 := .standard

/-- Two scanners before their first round. -/
def fresh : Workers Bool Shared IndexerError ScanRound where
  shared := { store := .empty }
  running _ := .done (.ok {})

theorem fresh_init : (scanners Bool (.testnet 64) fun _ => "").init fresh := ⟨rfl, fun _ => ⟨_, rfl⟩⟩

/-- What a round leaves that nothing came in between of. -/
def after (e : ScanEnv) (s : Shared) : Shared := ((scannerProgram (.testnet 64) e fun _ => "").alone s).2

/-- One scanner takes a whole round. -/
theorem run_round {w : Workers Bool Shared IndexerError ScanRound} {i : Bool} (hdone : ∃ r, w.running i = .done r)
    (e : ScanEnv) : ∃ events r, (∀ j e', .start j e' ∈ events → e' = e) ∧
      (scanners Bool (.testnet 64) fun _ => "").Run w events ⟨after e w.shared, Function.update w.running i (.done r)⟩ := by
  obtain ⟨n, hrun⟩ := run_alone (fun e => scannerProgram (.testnet 64) e fun _ => "")
    (fun s => s = { store := .empty }) hdone e
  refine ⟨_, _, fun j e' hmem => ?_, hrun⟩
  rcases List.mem_cons.mp hmem with heq | hmem
  · cases heq
    rfl
  · cases List.eq_of_mem_replicate hmem

/-- Such a run whose round is told a tip. -/
theorem reports_of_start {events : List (Workers.Event Bool ScanEnv)} {e : ScanEnv}
    (htip : e.replies.getIndexerTip ≠ .ok none) (hstart : ∀ j e', .start j e' ∈ events → e' = e) :
    ∀ a ∈ events, ReportsTip a := by
  intro a ha
  cases a with
  | start j e' =>
    obtain rfl := hstart j e' ha
    exact htip
  | next j => trivial

/-- No transaction of the chain consumes a cell. -/
theorem lists_nothing (e : ScanEnv) : Lists (.testnet 64) chain (InOrder fun _ => []) e := by
  intro lo hi records hrecords record hmem l hmerged
  have hnone : ∀ l ∈ chain.located, l.tx.inputs = [] := by decide +kernel
  have hmatched : matchedInputs record = [] := by
    rw [List.eq_nil_iff_forall_not_mem]
    intro m hm
    obtain ⟨op, -, -, -, hin, -⟩ := hmerged.input hm
    rw [hnone l (Chain.mem_located.mpr hmerged.holds)] at hin
    cases hin
  show (matchedInputs record).map _ = []
  rw [hmatched, List.map_nil]

/-- One scanner takes a round, then the other. -/
theorem rows_of_run_two_rounds :
    let first := after (env (chain.serve 2)) { store := .empty }
    let second := after (env (chain.serve 3)) first
    chain.EqualsReference (.testnet 64) 1 (second.highest (.testnet 64)) second.store ∧ RowsKept first.store second.store ∧
      TransitionsInOrder (.testnet 64) chain (fun _ => []) second.store := by
  have h2 : (2 : UInt64).toNat < chain.blocks.length := by decide +kernel
  have h3 : (3 : UInt64).toNat < chain.blocks.length := by decide +kernel
  obtain ⟨events, r, hstart, hrun⟩ := run_round (w := fresh) (i := true) ⟨_, rfl⟩ (env (chain.serve 2))
  obtain ⟨later, r', hstart', hlater⟩ := run_round
    (w := ⟨after (env (chain.serve 2)) fresh.shared, Function.update fresh.running true (.done r)⟩) (i := false)
    ⟨.ok {}, rfl⟩ (env (chain.serve 3))
  have hserves : ∀ i e, .start i e ∈ events ++ later → Serves chain e.replies ∧ IndexerComplete chain e.replies := by
    intro i e hmem
    rcases List.mem_append.mp hmem with hmem | hmem
    · obtain rfl := hstart i e hmem
      exact ⟨Chain.serve_serves h2, Chain.serve_complete h2⟩
    · obtain rfl := hstart' i e hmem
      exact ⟨Chain.serve_serves h3, Chain.serve_complete h3⟩
  obtain ⟨hrows, hkept, horder⟩ := rows_of_run fresh_init hserves
    (Lts.run_restrict_iff.mpr ⟨hrun, reports_of_start (fun h => by cases h) hstart⟩)
    (Lts.run_restrict_iff.mpr ⟨hlater, reports_of_start (fun h => by cases h) hstart'⟩)
  exact ⟨hrows, hkept, (horder (fun _ => []) fun _ e _ => lists_nothing e).1⟩

/-- **The issuance of block 2 has no row**, though a checkpoint at block 2 was committed. -/
theorem issuance_missing :
    (Serves chain UnreachedRange.starting ∧ IndexerComplete chain UnreachedRange.starting) ∧
      (scanners Bool (.testnet 64) fun _ => "").init fresh ∧
      ∃ events w, (∀ i e, .start i e ∈ events → e = env UnreachedRange.starting) ∧
        (scanners Bool (.testnet 64) fun _ => "").Run fresh events w ∧ w.shared.highest (.testnet 64) = 2 ∧
        ¬ chain.EqualsReference (.testnet 64) 1 (w.shared.highest (.testnet 64)) w.shared.store := by
  refine ⟨UnreachedRange.starting_serves, fresh_init, ?_⟩
  obtain ⟨events, r, hstart, hrun⟩ := run_round (w := fresh) (i := true) ⟨_, rfl⟩ (env UnreachedRange.starting)
  have hmissing : (after (env UnreachedRange.starting) fresh.shared).highest (.testnet 64) = 2 ∧
      (after (env UnreachedRange.starting) fresh.shared).store.rgbppCells.get? cell.key ≠
        chain.referenceCell (.testnet 64) 1 2 cell := by decide +kernel
  obtain ⟨hhighest, hmissing⟩ := hmissing
  refine ⟨events, _, hstart, hrun, hhighest, fun h => hmissing ?_⟩
  have hcell := h.cells cell
  dsimp only at hcell
  rw [hhighest] at hcell
  exact hcell

end
end RgbppIndexer.Bugs.BesideNullTip
