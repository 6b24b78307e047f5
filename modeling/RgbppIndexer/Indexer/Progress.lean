import Mathlib.Data.List.Chain
import RgbppIndexer.Chain.Serve
import RgbppIndexer.Core.Intervals
import RgbppIndexer.Scan.Runs

/-!
# What the scanner's log says

`crates/indexer/src/progress.rs` and the loop of `CkbScanner::run`
(crates/indexer/src/scanner.rs:84-110): rounds are added up in a window, a line
is printed when the window is old enough, when the scanner has caught up, and
when it stops. The counters are `u64` and wrap. The rate, the ETA and the
percentage of a line are floating point and left out; the clock is read once
for each round.

* `scanOnce_ok`: what a round says of itself is what it did.
* `SyncReporter.account_record`, `account_flush`: the printed lines and the window together are the
  account of the rounds; printing moves the window into the lines.
* `told_of_run`: over every run of the loop whose totals fit the counters, **the log accounts for every round
  once**, and a scanner that has stopped has told all.
* `log_tiles_blocks`: and for every block once, if no round failed behind its commit. Ranges that fit leave
  the counter of the blocks no room to wrap.
-/
namespace RgbppIndexer

open RgbppIndexer.Core

/-! ## The reporter -/

/-- What a line says has been scanned. -/
structure Account where
  first : UInt64
  last : UInt64
  blocks : UInt64
  transactions : UInt64
  cells : UInt64
  spends : UInt64
  backfilled : UInt64
  deriving DecidableEq, Repr

/-- A `ckb sync` line. mirrors crates/indexer/src/progress.rs:126-139 -/
structure SyncLine extends Account where
  behind : UInt64
  tip : UInt64
  deriving DecidableEq, Repr

inductive LogLine where
  | sync (line : SyncLine)
  /-- mirrors crates/indexer/src/progress.rs:96-101 -/
  | caughtUp (indexedTo tip lag : UInt64)
  deriving DecidableEq, Repr

/-- mirrors crates/indexer/src/progress.rs:11-33 -/
structure SyncReporter where
  interval : Nat
  windowStart : Nat
  firstBlock : Option UInt64
  lastBlock : UInt64
  rounds : UInt64
  blocks : UInt64
  transactions : UInt64
  cells : UInt64
  spends : UInt64
  backfilled : UInt64
  sessionBlocks : UInt64
  caughtUp : Bool
  deriving DecidableEq, Repr

/-- `u64::saturating_sub`. -/
def saturatingSub (a b : UInt64) : UInt64 := if a < b then 0 else a - b

namespace SyncReporter

/-- mirrors crates/indexer/src/progress.rs:36-53 -/
def new (interval now : Nat) : SyncReporter where
  interval
  windowStart := now
  firstBlock := none
  lastBlock := 0
  rounds := 0
  blocks := 0
  transactions := 0
  cells := 0
  spends := 0
  backfilled := 0
  sessionBlocks := 0
  caughtUp := false

/-- What the window holds. -/
def window (r : SyncReporter) : Account where
  first := r.firstBlock.getD r.lastBlock
  last := r.lastBlock
  blocks := r.blocks
  transactions := r.transactions
  cells := r.cells
  spends := r.spends
  backfilled := r.backfilled

/-- The line of the window. mirrors crates/indexer/src/progress.rs:112-139 -/
def line (r : SyncReporter) (target chainTip : UInt64) : SyncLine where
  toAccount := r.window
  behind := saturatingSub target r.lastBlock
  tip := chainTip

/-- A new window. mirrors crates/indexer/src/progress.rs:141-148 -/
def reset (r : SyncReporter) (now : Nat) : SyncReporter :=
  { r with
    windowStart := now, firstBlock := none, rounds := 0, blocks := 0, transactions := 0, cells := 0, spends := 0
    backfilled := 0 }

/-- mirrors crates/indexer/src/progress.rs:112-149 -/
def emit (r : SyncReporter) (target chainTip : UInt64) (now : Nat) : List LogLine × SyncReporter :=
  ([.sync (r.line target chainTip)], r.reset now)

/-- Flush whatever is pending, e.g. on shutdown. mirrors crates/indexer/src/progress.rs:105-110 -/
def flush (r : SyncReporter) (target chainTip : UInt64) (now : Nat) : List LogLine × SyncReporter :=
  if 0 < r.blocks then r.emit target chainTip now else ([], r)

/-- `self.caught_up = true`. -/
def latch (r : SyncReporter) : SyncReporter := { r with caughtUp := true }

/-- Reaching the target is told once per catch-up. mirrors crates/indexer/src/progress.rs:89-103 -/
def noteIdle (r : SyncReporter) (round : ScanRound) (now : Nat) : List LogLine × SyncReporter :=
  let (lines, r) := r.flush round.target round.chainTip now
  if r.caughtUp then (lines, r)
  else
    (lines ++ [.caughtUp round.target round.chainTip (saturatingSub round.chainTip round.target)], r.latch)

/-- `round.to.saturating_sub(round.from) + 1`, which wraps. -/
def scanned (round : ScanRound) : UInt64 := saturatingSub round.toBlock round.fromBlock + 1

/-- A round in the window. mirrors crates/indexer/src/progress.rs:72-82 -/
def add (r : SyncReporter) (round : ScanRound) : SyncReporter :=
  { r with
    caughtUp := false
    firstBlock := some (r.firstBlock.getD round.fromBlock)
    lastBlock := round.toBlock
    rounds := r.rounds + 1
    blocks := r.blocks + scanned round
    sessionBlocks := r.sessionBlocks + scanned round
    transactions := r.transactions + UInt64.ofNat round.transactions
    cells := r.cells + UInt64.ofNat round.cells
    spends := r.spends + UInt64.ofNat round.spends
    backfilled := r.backfilled + UInt64.ofNat round.backfilledCells }

/-- Fold in a completed round. mirrors crates/indexer/src/progress.rs:56-87 -/
def record (r : SyncReporter) (round : ScanRound) (now : Nat) : List LogLine × SyncReporter :=
  if round.idle then r.noteIdle round now
  else
    let r := r.add round
    if r.interval ≤ now - r.windowStart then r.emit round.target round.chainTip now else ([], r)

end SyncReporter

/-! ## The loop -/

inductive RunPhase where
  | scanning | asleep | stopped
  deriving DecidableEq, Repr

/-- The scanner's loop, its database, and what it has printed. mirrors crates/indexer/src/scanner.rs:76-82 -/
structure ScannerRun where
  store : Store
  reporter : SyncReporter
  lastSeen : UInt64 × UInt64
  lines : List LogLine
  phase : RunPhase

inductive RunEvent where
  /-- a pass, the clock behind its round, and whether shutdown is triggered then -/
  | pass (env : ScanEnv) (now : Nat) (triggered : Bool)
  /-- the end of a sleep, by the timer or by shutdown -/
  | wake (now : Nat) (stop : Bool)

namespace ScannerRun

def start (st : Store) (interval now : Nat) : ScannerRun where
  store := st
  reporter := .new interval now
  lastSeen := (0, 0)
  lines := []
  phase := .scanning

/-- mirrors crates/indexer/src/scanner.rs:85-102 -/
def pass [Sha2] (cfg : Config) (errorText : IndexerError → String) (s : ScannerRun) (env : ScanEnv) (now : Nat)
    (triggered : Bool) : ScannerRun :=
  match scanOnce cfg env s.store with
  | (.ok round, st) =>
    let (lines, reporter) := s.reporter.record round now
    let backlog := !round.idle && decide (round.toBlock < round.target)
    { store := st, reporter, lastSeen := (round.target, round.chainTip), lines := s.lines ++ lines
      phase := if backlog && !triggered then .scanning else .asleep }
  | (.error _, _) => { s with store := scannerStep cfg env errorText s.store, phase := .asleep }

/-- mirrors crates/indexer/src/scanner.rs:104-108 -/
def wake (s : ScannerRun) (now : Nat) (stop : Bool) : ScannerRun :=
  if stop then
    let (lines, reporter) := s.reporter.flush s.lastSeen.1 s.lastSeen.2 now
    { s with reporter, lines := s.lines ++ lines, phase := .stopped }
  else { s with phase := .scanning }

end ScannerRun

/-- What a pass hands to the reporter, if it is not idle. -/
def reported [Sha2] (cfg : Config) (env : ScanEnv) (st : Store) : List ScanRound :=
  match scanOnce cfg env st with
  | (.ok round, _) => if round.idle then [] else [round]
  | (.error _, _) => []

/-- The loop, with the rounds reported so far beside it. -/
def scannerRun [Sha2] (cfg : Config) (errorText : IndexerError → String) :
    Lts (List ScanRound × ScannerRun) RunEvent where
  init s := ∃ st interval now, s = ([], .start st interval now)
  step s e s' :=
    match e with
    | .pass env now triggered =>
      s.2.phase = .scanning ∧ s' = (s.1 ++ reported cfg env s.2.store, s.2.pass cfg errorText env now triggered)
    | .wake now stop => s.2.phase = .asleep ∧ s' = (s.1, s.2.wake now stop)

/-! ## Lines and window -/

def Account.ofRound (round : ScanRound) : Account where
  first := round.fromBlock
  last := round.toBlock
  blocks := SyncReporter.scanned round
  transactions := UInt64.ofNat round.transactions
  cells := UInt64.ofNat round.cells
  spends := UInt64.ofNat round.spends
  backfilled := UInt64.ofNat round.backfilledCells

def Account.add (a : Account) (round : ScanRound) : Account where
  first := a.first
  last := round.toBlock
  blocks := a.blocks + SyncReporter.scanned round
  transactions := a.transactions + UInt64.ofNat round.transactions
  cells := a.cells + UInt64.ofNat round.cells
  spends := a.spends + UInt64.ofNat round.spends
  backfilled := a.backfilled + UInt64.ofNat round.backfilledCells

/-- One more round: on its own, or in the last of the accounts. -/
def Grown (accounts : List Account) (round : ScanRound) (accounts' : List Account) : Prop :=
  accounts' = accounts ++ [.ofRound round] ∨ ∃ front a, accounts = front ++ [a] ∧ accounts' = front ++ [a.add round]

def LogLine.account? : LogLine → Option Account
  | .sync line => some line.toAccount
  | .caughtUp .. => none

/-- How many blocks a round is about. -/
def ScanRound.size (round : ScanRound) : Nat := round.toBlock.toNat - round.fromBlock.toNat + 1

theorem eq_zero_of_not_pos {a : UInt64} (h : ¬ 0 < a) : a = 0 := by
  rw [UInt64.lt_iff_toNat_lt] at h
  exact UInt64.toNat_inj.mp (Nat.eq_zero_of_not_pos h)

theorem toNat_add_ofNat {a : UInt64} {n : Nat} (h : a.toNat + n < 2 ^ 64) : (a + UInt64.ofNat n).toNat = a.toNat + n := by
  rw [UInt64.toNat_add, UInt64.toNat_ofNat_of_lt' (Nat.lt_of_le_of_lt (Nat.le_add_left ..) h)]
  exact Nat.mod_eq_of_lt h

namespace SyncReporter

/-- What is still to print. -/
def pending (r : SyncReporter) : List Account := if 0 < r.blocks then [r.window] else []

/-- A window without blocks is a new one. -/
def Tidy (r : SyncReporter) : Prop :=
  if 0 < r.blocks then r.firstBlock.isSome = true
  else r.firstBlock = none ∧ r.transactions = 0 ∧ r.cells = 0 ∧ r.spends = 0 ∧ r.backfilled = 0

variable {r : SyncReporter} {round : ScanRound}

theorem scanned_eq (round : ScanRound) : scanned round = UInt64.ofNat round.size := by
  unfold scanned saturatingSub ScanRound.size
  by_cases hlt : round.toBlock < round.fromBlock
  · rw [if_pos hlt, Nat.sub_eq_zero_of_le (Nat.le_of_lt (UInt64.lt_iff_toNat_lt.mp hlt))]
    rfl
  · have hle : round.fromBlock ≤ round.toBlock := UInt64.not_lt.mp hlt
    rw [if_neg hlt, ← UInt64.toNat_sub_of_le _ _ hle, UInt64.ofNat_add, UInt64.ofNat_toNat]
    rfl

/-- The window has room for the round. -/
def Room (r : SyncReporter) (round : ScanRound) : Prop := r.blocks.toNat + round.size < 2 ^ 64

theorem Room.pos (h : r.Room round) : 0 < (r.add round).blocks := by
  have hsize : 1 ≤ round.size := Nat.le_add_left ..
  show 0 < r.blocks + scanned round
  rw [UInt64.lt_iff_toNat_lt, scanned_eq, toNat_add_ofNat h]
  exact Nat.lt_of_lt_of_le hsize (Nat.le_add_left ..)

theorem tidy_new (interval now : Nat) : (new interval now).Tidy := by
  unfold Tidy new
  simp

theorem tidy_reset (now : Nat) : (r.reset now).Tidy := by
  unfold Tidy reset
  simp

theorem tidy_add (hroom : r.Room round) : (r.add round).Tidy := by
  unfold Tidy
  rw [if_pos hroom.pos]
  rfl

@[simp] theorem pending_reset (now : Nat) : (r.reset now).pending = [] := rfl

@[simp] theorem pending_latch : r.latch.pending = r.pending := rfl

theorem pending_add (h : r.Tidy) (hroom : r.Room round) : Grown r.pending round (r.add round).pending := by
  unfold Tidy at h
  unfold Grown
  rw [pending, pending, if_pos hroom.pos]
  by_cases hblocks : 0 < r.blocks
  · rw [if_pos hblocks] at h ⊢
    obtain ⟨first, hfirst⟩ := Option.isSome_iff_exists.mp h
    refine .inr ⟨[], r.window, rfl, ?_⟩
    simp [window, add, Account.add, hfirst]
  · rw [if_neg hblocks] at h ⊢
    obtain ⟨hfirst, htransactions, hcells, hspends, hbackfilled⟩ := h
    have hzero : r.blocks = 0 := eq_zero_of_not_pos hblocks
    left
    simp [window, add, Account.ofRound, hfirst, htransactions, hcells, hspends, hbackfilled, hzero]

/-- Printing moves the window into the lines. -/
theorem account_flush (target chainTip : UInt64) (now : Nat) :
    (r.flush target chainTip now).1.filterMap LogLine.account? ++ (r.flush target chainTip now).2.pending = r.pending := by
  unfold flush
  by_cases hblocks : 0 < r.blocks
  · rw [if_pos hblocks]
    unfold pending
    rw [if_pos hblocks]
    rfl
  · rw [if_neg hblocks]
    rfl

theorem tidy_flush (h : r.Tidy) (target chainTip : UInt64) (now : Nat) : (r.flush target chainTip now).2.Tidy := by
  unfold flush
  by_cases hblocks : 0 < r.blocks
  · rw [if_pos hblocks]
    exact tidy_reset now
  · rw [if_neg hblocks]
    exact h

theorem pending_flush (target chainTip : UInt64) (now : Nat) : (r.flush target chainTip now).2.pending = [] := by
  unfold flush
  by_cases hblocks : 0 < r.blocks
  · rw [if_pos hblocks]
    rfl
  · rw [if_neg hblocks]
    exact if_neg hblocks

/-- An idle round is none. -/
theorem account_noteIdle (now : Nat) :
    (r.noteIdle round now).1.filterMap LogLine.account? ++ (r.noteIdle round now).2.pending = r.pending := by
  have hflush := @account_flush r round.target round.chainTip now
  unfold noteIdle
  dsimp only
  by_cases hcaught : (r.flush round.target round.chainTip now).2.caughtUp = true
  · rw [if_pos hcaught]
    exact hflush
  · rw [if_neg hcaught, List.filterMap_append, pending_latch]
    have hnone : ∀ indexedTo tip lag, [LogLine.caughtUp indexedTo tip lag].filterMap LogLine.account? = [] := fun _ _ _ => rfl
    rw [hnone, List.append_nil]
    exact hflush

theorem tidy_noteIdle (h : r.Tidy) (now : Nat) : (r.noteIdle round now).2.Tidy := by
  have hflush := tidy_flush h round.target round.chainTip now
  unfold noteIdle
  dsimp only
  by_cases hcaught : (r.flush round.target round.chainTip now).2.caughtUp = true
  · rw [if_pos hcaught]
    exact hflush
  · rw [if_neg hcaught]
    exact hflush

/-- A round that is not idle is one more. -/
theorem account_record (h : r.Tidy) (hidle : round.idle = false) (hroom : r.Room round) (now : Nat) :
    Grown r.pending round ((r.record round now).1.filterMap LogLine.account? ++ (r.record round now).2.pending) := by
  have hgrown := pending_add h hroom
  unfold record
  rw [if_neg (by simp [hidle])]
  dsimp only
  by_cases hold : (r.add round).interval ≤ now - (r.add round).windowStart
  · rw [if_pos hold]
    unfold pending at hgrown
    rw [if_pos hroom.pos] at hgrown
    exact hgrown
  · rw [if_neg hold]
    exact hgrown

theorem tidy_record (h : r.Tidy) (hroom : round.idle = false → r.Room round) (now : Nat) : (r.record round now).2.Tidy := by
  unfold record
  by_cases hidle : round.idle = true
  · rw [if_pos hidle]
    exact tidy_noteIdle h now
  · rw [if_neg hidle]
    dsimp only
    by_cases hold : (r.add round).interval ≤ now - (r.add round).windowStart
    · rw [if_pos hold]
      exact tidy_reset now
    · rw [if_neg hold]
      exact tidy_add (hroom (by simpa using hidle))

end SyncReporter

/-! ## Rounds as they are returned -/

section
variable [Sha2] {cfg : Config} {env : ScanEnv} {st st' : Store} {errorText : IndexerError → String} {round : ScanRound}

/-- What a round says of its range when it comes to write. -/
theorem buildRound_range {state : StreamState} {chainTip target : UInt64} {batch : IndexBatch}
    (h : buildRound cfg env st state chainTip target = .ok (batch, round)) :
    round.fromBlock = rangeFrom cfg state.lastBlockNumber ∧
      round.toBlock = rangeTo cfg target (rangeFrom cfg state.lastBlockNumber) ∧
      round.idle = false := by
  obtain ⟨-, records, headers, header, built, -, -, hbuilt, -, -⟩ := buildRound_eq_ok h
  have hrange := (recordLoop_rowsAdded hbuilt).range
  unfold SameRange at hrange
  dsimp only at hrange
  rw [hrange]
  exact ⟨rfl, rfl, rfl⟩

omit [Sha2] in
/-- What a commit returns, and when it does. -/
theorem commitRound_result (cfg : Config) (env : ScanEnv) (st : Store) (batch : IndexBatch) (round : ScanRound) :
    (∀ round', (commitRound cfg env st batch round).1 = .ok round' →
      (∃ blocks, (commitRound cfg env st batch round).2 = { (st.applyBatch batch env.now).1 with ckbBlocks := blocks }) ∧
        round'.fromBlock = round.fromBlock ∧ round'.toBlock = round.toBlock ∧ round'.idle = round.idle) ∧
    ∀ e, (commitRound cfg env st batch round).1 = .error e →
      (commitRound cfg env st batch round).2 = st ∨ env.faults.pruneBlocks ≠ none := by
  unfold commitRound
  cases env.faults.applyBatch with
  | some e => exact ⟨fun _ h => (by cases h), fun _ _ => .inl rfl⟩
  | none =>
    dsimp only
    by_cases hkeep : keepFrom cfg round.toBlock > 0
    · simp only [if_pos hkeep]
      cases env.faults.pruneBlocks with
      | some e => exact ⟨fun _ h => (by cases h), fun _ _ => .inr (by simp)⟩
      | none =>
        refine ⟨fun _ h => ?_, fun _ h => by cases h⟩
        cases h
        exact ⟨⟨_, rfl⟩, rfl, rfl, rfl⟩
    · simp only [if_neg hkeep]
      refine ⟨fun _ h => ?_, fun _ h => by cases h⟩
      cases h
      exact ⟨⟨_, rfl⟩, rfl, rfl, rfl⟩

/-- **What a round says of itself is what it did**: an idle one nothing, any other the range it names. -/
theorem scanOnce_ok (h : (scanOnce cfg env st).1 = .ok round) :
    round.idle = true ∧ Noted cfg st (scanOnce cfg env st).2 ∨
      round.idle = false ∧ ∃ reads batch, Committed cfg env st (scanOnce cfg env st).2 reads batch ∧
        round.fromBlock = st.nextBlock cfg ∧ round.toBlock = reads.toBlock cfg st := by
  rcases scanOnce_built cfg env st with ⟨hnoted, hidle⟩ | ⟨st₁, state, chainTip, target, batch, built, hbuilt, hcommit⟩
  · exact .inl ⟨hidle round h, hnoted⟩
  · right
    rw [hcommit] at h ⊢
    obtain ⟨⟨blocks, happlied⟩, hfrom, hto, hidle⟩ := (commitRound_result cfg env st₁ batch built).1 round h
    obtain ⟨hfrom', hto', hidle'⟩ := buildRound_range hbuilt.built
    obtain ⟨current, hcurrent⟩ := hbuilt.current
    obtain ⟨reads, b, hcommitted⟩ :=
      committed_of_built hcurrent hbuilt.checkpoint hbuilt.tip hbuilt.reached hbuilt.above hbuilt.built happlied
    have hnext : st.nextBlock cfg = rangeFrom cfg state.lastBlockNumber := by
      unfold Store.nextBlock
      rw [← hbuilt.noted.checkpoint, hbuilt.checkpoint]
      rfl
    have htip : reads.chainTip = chainTip := Except.ok.inj (hcommitted.tip.symm.trans hbuilt.tip)
    have htarget : reads.target = target := by
      have hreached := hcommitted.target
      rw [htip] at hreached
      exact Option.some.inj (hreached.symm.trans hbuilt.reached)
    refine ⟨hidle.trans hidle', reads, b, hcommitted.noted hbuilt.noted (.refl ..), ?_, ?_⟩
    · rw [hfrom, hfrom', hnext]
    · rw [hto, hto', RoundReads.toBlock, htarget, hnext]

/-- A round that fails has done nothing, unless it failed behind its commit. -/
theorem scanOnce_error {e : IndexerError} (h : (scanOnce cfg env st).1 = .error e) (hprune : env.faults.pruneBlocks = none) :
    Noted cfg st (scanOnce cfg env st).2 := by
  rcases scanOnce_built cfg env st with ⟨hnoted, -⟩ | ⟨st₁, state, chainTip, target, batch, built, hbuilt, hcommit⟩
  · exact hnoted
  · rw [hcommit] at h ⊢
    rcases (commitRound_result cfg env st₁ batch built).2 e h with hsame | hfails
    · rw [hsame]
      exact hbuilt.noted
    · exact absurd hprune hfails

/-! ## Accounts -/

omit [Sha2]

/-- What the accounts say of something in all is what the rounds did of it. -/
def SumsTo (accounts : List Account) (rounds : List ScanRound) (said : Account → UInt64) (done : ScanRound → Nat) : Prop :=
  (accounts.map fun a => (said a).toNat).sum = (rounds.map done).sum

theorem SumsTo.grown {accounts accounts' : List Account} {rounds : List ScanRound} {said : Account → UInt64}
    {done : ScanRound → Nat} (h : SumsTo accounts rounds said done) (hgrown : Grown accounts round accounts')
    (hfits : ((rounds ++ [round]).map done).sum < 2 ^ 64) (hone : ∀ r, said (.ofRound r) = UInt64.ofNat (done r))
    (hmore : ∀ a r, said (a.add r) = said a + UInt64.ofNat (done r)) : SumsTo accounts' (rounds ++ [round]) said done := by
  unfold SumsTo at *
  simp only [List.map_append, List.map_cons, List.map_nil, List.sum_append, List.sum_cons, List.sum_nil, Nat.add_zero] at hfits ⊢
  rcases hgrown with rfl | ⟨front, a, rfl, rfl⟩
  · simp only [List.map_append, List.map_cons, List.map_nil, List.sum_append, List.sum_cons, List.sum_nil, hone, Nat.add_zero, h]
    rw [UInt64.toNat_ofNat_of_lt' (Nat.lt_of_le_of_lt (Nat.le_add_left ..) hfits)]
  · simp only [List.map_append, List.map_cons, List.map_nil, List.sum_append, List.sum_cons, List.sum_nil, hmore,
      Nat.add_zero] at h ⊢
    have hroom : (said a).toNat + done round < 2 ^ 64 := by omega
    rw [toNat_add_ofNat hroom]
    omega

theorem Grown.append {accounts accounts' : List Account} (h : Grown accounts round accounts') (before : List Account) :
    Grown (before ++ accounts) round (before ++ accounts') := by
  rcases h with rfl | ⟨front, a, rfl, rfl⟩
  · exact .inl (List.append_assoc ..).symm
  · exact .inr ⟨before ++ front, a, (List.append_assoc ..).symm, (List.append_assoc ..).symm⟩

/-- The blocks an account speaks of. -/
def Account.interval (a : Account) : Interval := ⟨a.first.toNat, a.last.toNat⟩

/-- The accounts follow each other from `start` to before `next`, each as long as it says. -/
structure Tiles (start next : Nat) (accounts : List Account) : Prop where
  consecutive : Consecutive start (accounts.map Account.interval)
  next : nextFirst start (accounts.map Account.interval) = next
  sizes : ∀ a ∈ accounts, a.blocks.toNat = a.last.toNat - a.first.toNat + 1

/-- The last account ends where they all do, and starts no earlier. -/
theorem Tiles.last {start next : Nat} {front : List Account} {a : Account} (h : Tiles start next (front ++ [a])) :
    start ≤ a.first.toNat ∧ a.first.toNat ≤ a.last.toNat ∧ a.last.toNat + 1 = next ∧ a.blocks.toNat + a.first.toNat = next := by
  obtain ⟨hconsecutive, hnext, hsizes⟩ := h
  rw [List.map_append] at hconsecutive hnext
  obtain ⟨hfront, hfirst, hlast⟩ := consecutive_concat.mp hconsecutive
  have hends : a.last.toNat + 1 = next := (nextFirst_concat _ _ a.interval).symm.trans hnext
  have hstart : start ≤ a.first.toNat := Nat.le_trans hfront.start_le (Nat.le_of_eq hfirst.symm)
  have hbounds : a.first.toNat ≤ a.last.toNat := hlast
  have hsize := hsizes a (by simp)
  exact ⟨hstart, hbounds, hends, by omega⟩

/-- A round that goes on where the accounts end. -/
theorem Tiles.grown {start next : Nat} {accounts accounts' : List Account} (h : Tiles start next accounts)
    (hstart : 1 ≤ start) (hgrown : Grown accounts round accounts') (hfrom : round.fromBlock.toNat = next)
    (hle : round.fromBlock.toNat ≤ round.toBlock.toNat) : Tiles start (round.toBlock.toNat + 1) accounts' := by
  have hto := round.toBlock.toNat_lt
  obtain ⟨hconsecutive, hnext, hsizes⟩ := h
  have hpos : 1 ≤ next := hnext ▸ Nat.le_trans hstart hconsecutive.start_le
  rcases hgrown with rfl | ⟨front, a, rfl, rfl⟩
  · refine ⟨?_, ?_, ?_⟩
    · rw [List.map_append]
      exact consecutive_concat.mpr ⟨hconsecutive, hfrom.trans hnext.symm, hle⟩
    · rw [List.map_append]
      exact nextFirst_concat ..
    · intro b hb
      rcases List.mem_append.mp hb with hb | hb
      · exact hsizes b hb
      · rw [List.mem_singleton.mp hb]
        show (SyncReporter.scanned round).toNat = round.size
        have hfits : round.size < 2 ^ 64 := by
          unfold ScanRound.size
          omega
        rw [SyncReporter.scanned_eq, UInt64.toNat_ofNat_of_lt' hfits]
  · obtain ⟨hfirst, hbounds, hends, hsize⟩ := Tiles.last ⟨hconsecutive, hnext, hsizes⟩
    rw [List.map_append] at hconsecutive
    obtain ⟨hfront, hcontinues, -⟩ := consecutive_concat.mp hconsecutive
    refine ⟨?_, ?_, ?_⟩
    · rw [List.map_append]
      refine consecutive_concat.mpr ⟨hfront, hcontinues, ?_⟩
      show a.first.toNat ≤ round.toBlock.toNat
      omega
    · rw [List.map_append]
      exact nextFirst_concat ..
    · intro b hb
      rcases List.mem_append.mp hb with hb | hb
      · exact hsizes b (List.mem_append_left _ hb)
      · rw [List.mem_singleton.mp hb]
        show (a.blocks + SyncReporter.scanned round).toNat = round.toBlock.toNat - a.first.toNat + 1
        have hfits : a.blocks.toNat + round.size < 2 ^ 64 := by
          unfold ScanRound.size
          omega
        rw [SyncReporter.scanned_eq, toNat_add_ofNat hfits]
        unfold ScanRound.size
        omega

/-! ## What the loop keeps -/

/-- What has been printed, and what is still to print. -/
def ScannerRun.account (s : ScannerRun) : List Account := s.lines.filterMap LogLine.account? ++ s.reporter.pending

def LogLine.isCaughtUp : LogLine → Bool
  | .sync _ => false
  | .caughtUp .. => true

/-- No two notices of having caught up follow each other. -/
def Apart (lines : List LogLine) : Prop := lines.IsChain fun a b => a.isCaughtUp = true → b.isCaughtUp = false

/-- The next notice is open only if something has been scanned since the last one. -/
structure Latched (r : SyncReporter) (lines : List LogLine) : Prop where
  apart : Apart lines
  reopened : r.caughtUp = false → 0 < r.blocks ∨ ∀ l ∈ lines.getLast?, l.isCaughtUp = false

section
variable {r : SyncReporter} {lines : List LogLine}

theorem Apart.sync (h : Apart lines) (line : SyncLine) : Apart (lines ++ [.sync line]) := by
  unfold Apart
  rw [List.isChain_append]
  refine ⟨h, .singleton _, fun a _ b hb _ => ?_⟩
  obtain rfl := Option.some.inj hb
  rfl

theorem Latched.flush (h : Latched r lines) (target chainTip : UInt64) (now : Nat) :
    Latched (r.flush target chainTip now).2 (lines ++ (r.flush target chainTip now).1) ∧
      (r.flush target chainTip now).2.blocks = 0 := by
  unfold SyncReporter.flush
  by_cases hblocks : 0 < r.blocks
  · rw [if_pos hblocks]
    refine ⟨⟨h.apart.sync _, fun _ => .inr fun l hl => ?_⟩, rfl⟩
    rw [SyncReporter.emit, List.getLast?_append, List.getLast?_singleton, Option.some_or] at hl
    obtain rfl := Option.some.inj hl
    rfl
  · rw [if_neg hblocks, List.append_nil]
    exact ⟨h, eq_zero_of_not_pos hblocks⟩

theorem Latched.noteIdle (h : Latched r lines) (now : Nat) :
    Latched (r.noteIdle round now).2 (lines ++ (r.noteIdle round now).1) := by
  obtain ⟨hflushed, hzero⟩ := h.flush round.target round.chainTip now
  unfold SyncReporter.noteIdle
  dsimp only
  by_cases hcaught : (r.flush round.target round.chainTip now).2.caughtUp = true
  · rw [if_pos hcaught]
    exact hflushed
  · rw [if_neg hcaught, ← List.append_assoc]
    refine ⟨?_, fun hopen => by cases hopen⟩
    unfold Apart
    rw [List.isChain_append]
    refine ⟨hflushed.apart, .singleton _, fun a ha b _ hcaughtUp => ?_⟩
    -- the window is empty, so the line before is no notice
    rcases hflushed.reopened (by simpa using hcaught) with hpos | hlast
    · rw [hzero] at hpos
      exact absurd hpos (UInt64.lt_irrefl 0)
    · rw [hlast a ha] at hcaughtUp
      cases hcaughtUp

theorem Latched.record (h : Latched r lines) (hroom : round.idle = false → r.Room round) (now : Nat) :
    Latched (r.record round now).2 (lines ++ (r.record round now).1) := by
  unfold SyncReporter.record
  by_cases hidle : round.idle = true
  · rw [if_pos hidle]
    exact h.noteIdle now
  · have hpos := (hroom (by simpa using hidle)).pos
    have hadded : Latched (r.add round) lines := ⟨h.apart, fun _ => .inl hpos⟩
    rw [if_neg hidle]
    dsimp only
    by_cases hold : (r.add round).interval ≤ now - (r.add round).windowStart
    · rw [if_pos hold]
      have hflushed := (hadded.flush round.target round.chainTip now).1
      unfold SyncReporter.flush at hflushed
      rwa [if_pos hpos] at hflushed
    · rw [if_neg hold, List.append_nil]
      exact hadded

end

/-- The counters have room for all that the rounds did. -/
structure Fits (rounds : List ScanRound) : Prop where
  blocks : (rounds.map ScanRound.size).sum < 2 ^ 64
  transactions : (rounds.map ScanRound.transactions).sum < 2 ^ 64
  cells : (rounds.map ScanRound.cells).sum < 2 ^ 64
  spends : (rounds.map ScanRound.spends).sum < 2 ^ 64
  backfilled : (rounds.map ScanRound.backfilledCells).sum < 2 ^ 64

/-- They had room for what was done before. -/
theorem Fits.of_append {rounds more : List ScanRound} (h : Fits (rounds ++ more)) : Fits rounds := by
  have hless : ∀ {done : ScanRound → Nat}, ((rounds ++ more).map done).sum < 2 ^ 64 → (rounds.map done).sum < 2 ^ 64 := by
    intro done hdone
    rw [List.map_append, List.sum_append] at hdone
    omega
  exact ⟨hless h.blocks, hless h.transactions, hless h.cells, hless h.spends, hless h.backfilled⟩

/-- What the lines and the window say in all is what the rounds did. -/
structure Told (rounds : List ScanRound) (s : ScannerRun) : Prop where
  blocks : SumsTo s.account rounds Account.blocks ScanRound.size
  transactions : SumsTo s.account rounds Account.transactions ScanRound.transactions
  cells : SumsTo s.account rounds Account.cells ScanRound.cells
  spends : SumsTo s.account rounds Account.spends ScanRound.spends
  backfilled : SumsTo s.account rounds Account.backfilled ScanRound.backfilledCells
  /-- nothing is held back by a scanner that has stopped -/
  stopped : s.phase = .stopped → s.reporter.pending = []
  tidy : s.reporter.Tidy
  latched : Latched s.reporter s.lines

theorem Told.start (st : Store) (interval now : Nat) : Told [] (.start st interval now) where
  blocks := rfl
  transactions := rfl
  cells := rfl
  spends := rfl
  backfilled := rfl
  stopped := nofun
  tidy := SyncReporter.tidy_new interval now
  latched := ⟨.nil, fun _ => .inr fun l hl => by cases hl⟩

/-- A window that is told of has room for what still fits. -/
theorem Told.room {rounds : List ScanRound} {s : ScannerRun} (h : Told rounds s) (hfits : Fits (rounds ++ [round])) :
    s.reporter.Room round := by
  have hblocks := hfits.blocks
  rw [List.map_append, List.map_singleton, List.sum_append, List.sum_singleton, ← h.blocks, ScannerRun.account, List.map_append,
    List.sum_append] at hblocks
  unfold SyncReporter.Room
  unfold SyncReporter.pending at hblocks
  by_cases hpos : 0 < s.reporter.blocks
  · rw [if_pos hpos, List.map_singleton, List.sum_singleton] at hblocks
    have hwindow : s.reporter.window.blocks = s.reporter.blocks := rfl
    rw [hwindow] at hblocks
    omega
  · rw [eq_zero_of_not_pos hpos]
    have hzero : (0 : UInt64).toNat = 0 := rfl
    omega

theorem Told.grown {rounds : List ScanRound} {s s' : ScannerRun} (h : Told rounds s) (hfits : Fits (rounds ++ [round]))
    (hgrown : Grown s.account round s'.account) (hphase : s'.phase ≠ .stopped) (htidy : s'.reporter.Tidy)
    (hlatched : Latched s'.reporter s'.lines) : Told (rounds ++ [round]) s' where
  blocks := h.blocks.grown hgrown hfits.blocks SyncReporter.scanned_eq fun a r =>
    congrArg (a.blocks + ·) (SyncReporter.scanned_eq r)
  transactions := h.transactions.grown hgrown hfits.transactions (fun _ => rfl) (fun _ _ => rfl)
  cells := h.cells.grown hgrown hfits.cells (fun _ => rfl) (fun _ _ => rfl)
  spends := h.spends.grown hgrown hfits.spends (fun _ => rfl) (fun _ _ => rfl)
  backfilled := h.backfilled.grown hgrown hfits.backfilled (fun _ => rfl) (fun _ _ => rfl)
  stopped hstopped := absurd hstopped hphase
  tidy := htidy
  latched := hlatched

/-- A step that prints, at most. -/
theorem Told.printed {rounds : List ScanRound} {s s' : ScannerRun} (h : Told rounds s) (hsame : s'.account = s.account)
    (hstopped : s'.phase = .stopped → s'.reporter.pending = []) (htidy : s'.reporter.Tidy)
    (hlatched : Latched s'.reporter s'.lines) : Told rounds s' := by
  refine ⟨?_, ?_, ?_, ?_, ?_, hstopped, htidy, hlatched⟩
  all_goals rw [hsame]
  · exact h.blocks
  · exact h.transactions
  · exact h.cells
  · exact h.spends
  · exact h.backfilled

end

/-! ## Runs -/

section
variable [Sha2] {cfg : Config} {errorText : IndexerError → String} {rounds : List ScanRound} {s : ScannerRun}

/-- A pass is a step of the scanner on its database. -/
@[simp] theorem ScannerRun.store_pass (env : ScanEnv) (now : Nat) (triggered : Bool) :
    (s.pass cfg errorText env now triggered).store = scannerStep cfg env errorText s.store := by
  unfold ScannerRun.pass scannerStep
  rcases scanOnce cfg env s.store with ⟨result, st⟩
  cases result <;> rfl

theorem reported_eq_nil {env : ScanEnv} {st : Store} (h : reported cfg env st = []) :
    (∃ round, (scanOnce cfg env st).1 = .ok round ∧ round.idle = true) ∨ ∃ e, (scanOnce cfg env st).1 = .error e := by
  unfold reported at h
  cases hscan : scanOnce cfg env st with
  | mk result st' =>
    rw [hscan] at h
    cases result with
    | error e => exact .inr ⟨e, rfl⟩
    | ok round =>
      dsimp only at h
      by_cases hidle : round.idle = true
      · exact .inl ⟨round, rfl, hidle⟩
      · rw [if_neg hidle] at h
        cases h

theorem reported_eq_singleton {env : ScanEnv} {st : Store} {round : ScanRound} (h : reported cfg env st = [round]) :
    (scanOnce cfg env st).1 = .ok round ∧ round.idle = false := by
  unfold reported at h
  cases hscan : scanOnce cfg env st with
  | mk result st' =>
    rw [hscan] at h
    cases result with
    | error e => cases h
    | ok told =>
      dsimp only at h
      by_cases hidle : told.idle = true
      · rw [if_pos hidle] at h
        cases h
      · rw [if_neg hidle] at h
        cases h
        exact ⟨rfl, by simpa using hidle⟩

variable (cfg) in
/-- The window has room for the round of the pass. -/
def HasRoom (env : ScanEnv) (s : ScannerRun) : Prop := ∀ round ∈ reported cfg env s.store, s.reporter.Room round

/-- A pass that returns a round to record reports it. -/
theorem HasRoom.round {env : ScanEnv} {st : Store} {round : ScanRound} (h : HasRoom cfg env s)
    (hscan : scanOnce cfg env s.store = (.ok round, st)) (hidle : round.idle = false) : s.reporter.Room round := by
  refine h round ?_
  unfold reported
  rw [hscan]
  dsimp only
  rw [hidle]
  exact List.mem_singleton_self round

theorem reported_eq_of_mem {env : ScanEnv} {st : Store} {round : ScanRound} (h : round ∈ reported cfg env st) :
    reported cfg env st = [round] := by
  unfold reported at h ⊢
  split at h
  · split at h
    · cases h
    · next hidle =>
      rw [if_neg hidle, List.mem_singleton.mp h]
  · cases h

/-- A pass reports a round at most, and that is what its account grows by. -/
theorem account_pass (h : s.reporter.Tidy) {env : ScanEnv} (hroom : HasRoom cfg env s) (now : Nat) (triggered : Bool) :
    reported cfg env s.store = [] ∧ (s.pass cfg errorText env now triggered).account = s.account ∨
      ∃ round, reported cfg env s.store = [round] ∧ Grown s.account round (s.pass cfg errorText env now triggered).account := by
  unfold reported ScannerRun.pass
  cases hscan : scanOnce cfg env s.store with
  | mk result st =>
    cases result with
    | error e => exact .inl ⟨rfl, rfl⟩
    | ok round =>
      unfold ScannerRun.account
      dsimp only
      rw [List.filterMap_append, List.append_assoc]
      by_cases hidle : round.idle = true
      · have hsame := @SyncReporter.account_noteIdle s.reporter round now
        have hrecord : s.reporter.record round now = s.reporter.noteIdle round now := if_pos hidle
        left
        rw [if_pos hidle, hrecord, hsame]
        exact ⟨rfl, rfl⟩
      · right
        rw [if_neg hidle]
        have hbusy : round.idle = false := by simpa using hidle
        exact ⟨round, rfl, (SyncReporter.account_record h hbusy (hroom.round hscan hbusy) now).append _⟩

theorem phase_pass (env : ScanEnv) (now : Nat) (triggered : Bool) :
    (s.pass cfg errorText env now triggered).phase ≠ .stopped := by
  have hphase : ∀ backlog : Bool, (if backlog then RunPhase.scanning else .asleep) ≠ .stopped := by decide
  unfold ScannerRun.pass
  rcases scanOnce cfg env s.store with ⟨result, st⟩
  cases result with
  | error e => exact hphase false
  | ok round => exact hphase _

theorem latched_pass (h : Latched s.reporter s.lines) {env : ScanEnv} (hroom : HasRoom cfg env s) (now : Nat)
    (triggered : Bool) :
    Latched (s.pass cfg errorText env now triggered).reporter (s.pass cfg errorText env now triggered).lines := by
  unfold ScannerRun.pass
  cases hscan : scanOnce cfg env s.store with
  | mk result st =>
    cases result with
    | error e => exact h
    | ok round => exact h.record (fun hidle => hroom.round hscan hidle) now

theorem tidy_pass (h : s.reporter.Tidy) {env : ScanEnv} (hroom : HasRoom cfg env s) (now : Nat) (triggered : Bool) :
    (s.pass cfg errorText env now triggered).reporter.Tidy := by
  unfold ScannerRun.pass
  cases hscan : scanOnce cfg env s.store with
  | mk result st =>
    cases result with
    | error e => exact h
    | ok round => exact SyncReporter.tidy_record h (fun hidle => hroom.round hscan hidle) now

theorem Told.hasRoom {env : ScanEnv} (h : Told rounds s) (hfits : Fits (rounds ++ reported cfg env s.store)) :
    HasRoom cfg env s := by
  intro round hround
  exact h.room (reported_eq_of_mem hround ▸ hfits)

theorem Told.pass {env : ScanEnv} (h : Told rounds s) (hfits : Fits (rounds ++ reported cfg env s.store)) (now : Nat)
    (triggered : Bool) : Told (rounds ++ reported cfg env s.store) (s.pass cfg errorText env now triggered) := by
  have hroom := h.hasRoom hfits
  have htidy := @tidy_pass _ cfg errorText s h.tidy env hroom now triggered
  have hlatched := @latched_pass _ cfg errorText s h.latched env hroom now triggered
  have hphase := @phase_pass _ cfg errorText s env now triggered
  rcases account_pass h.tidy hroom now triggered with ⟨hnone, hsame⟩ | ⟨round, hone, hgrown⟩
  · rw [hnone, List.append_nil]
    exact h.printed hsame (fun hstopped => absurd hstopped hphase) htidy hlatched
  · rw [hone] at hfits ⊢
    exact h.grown hfits hgrown hphase htidy hlatched

omit [Sha2] in
theorem account_wake (now : Nat) (stop : Bool) : (s.wake now stop).account = s.account := by
  unfold ScannerRun.wake ScannerRun.account
  cases stop with
  | false => rfl
  | true =>
    rw [if_pos rfl]
    dsimp only
    rw [List.filterMap_append, List.append_assoc, SyncReporter.account_flush]

omit [Sha2] in
@[simp] theorem ScannerRun.store_wake (now : Nat) (stop : Bool) : (s.wake now stop).store = s.store := by
  unfold ScannerRun.wake
  cases stop <;> rfl

omit [Sha2] in
theorem tidy_wake (h : s.reporter.Tidy) (now : Nat) (stop : Bool) : (s.wake now stop).reporter.Tidy := by
  unfold ScannerRun.wake
  cases stop with
  | false => exact h
  | true => exact SyncReporter.tidy_flush h ..

omit [Sha2] in
theorem Told.wake (h : Told rounds s) (now : Nat) (stop : Bool) : Told rounds (s.wake now stop) := by
  have hsame := @account_wake s now stop
  unfold ScannerRun.wake at hsame ⊢
  cases stop with
  | false => exact h.printed hsame (fun hphase => by cases hphase) h.tidy h.latched
  | true =>
    exact h.printed hsame (fun _ => SyncReporter.pending_flush ..) (SyncReporter.tidy_flush h.tidy ..)
      (h.latched.flush ..).1

/-- The heights a pass meets fit their integers, and it does not fail behind its commit. -/
def PassFits (cfg : Config) (st : Store) (env : ScanEnv) : Prop :=
  (∀ tip, env.replies.syncedTip = .ok tip → tip.toNat + 1 < 2 ^ 63) ∧ RangeFits cfg st ∧ env.faults.pruneBlocks = none

def EventFits (cfg : Config) (s : List ScanRound × ScannerRun) : RunEvent → Prop
  | .pass env _ _ => PassFits cfg s.2.store env
  | .wake _ _ => True

omit [Sha2] in
theorem Noted.nextBlock {st st' : Store} (h : Noted cfg st st') : st'.nextBlock cfg = st.nextBlock cfg := by
  unfold Store.nextBlock
  rw [h.checkpoint]

/-- The range behind a committed one starts where that ends. -/
theorem Committed.nextBlock_after {env : ScanEnv} {st st' : Store} {reads : RoundReads} {batch : IndexBatch}
    (hc : Committed cfg env st st' reads batch) (hbatch : 0 < cfg.ckb.batchBlocks) (hpos : 1 ≤ (st.nextBlock cfg).toNat)
    (hfits : PassFits cfg st env) :
    (st.nextBlock cfg).toNat ≤ (reads.toBlock cfg st).toNat ∧
      (st'.nextBlock cfg).toNat = (reads.toBlock cfg st).toNat + 1 := by
  obtain ⟨htips, hrange, -⟩ := hfits
  have htip := htips _ hc.tip
  have hreached := UInt64.le_iff_toNat_le.mp (Config.safeCkbTarget_eq_some hc.target).2.2
  have htarget : reads.target.toNat < 2 ^ 63 := by omega
  have hle := (hc.nextBlock_le_toBlock_iff hbatch hpos htarget).mpr hrange
  have hto : (reads.toBlock cfg st).toNat ≤ reads.target.toNat :=
    UInt64.le_iff_toNat_le.mp (reads.toBlock_le_target cfg st)
  have hnext := hc.nextBlock_toNat htarget
  have hone : (1 : UInt64).toNat = 1 := rfl
  have hsucc : (reads.toBlock cfg st + 1).toNat = (reads.toBlock cfg st).toNat + 1 := by
    rw [UInt64.toNat_add, hone]
    omega
  have hcheckpoint := hc.checkpoint_toInt htarget
  have hafter : ((st'.nextBlock cfg).toNat : Int) = max ((st'.checkpoint cfg).number.toInt + 1) cfg.ckb.startBlock.toNat := by
    refine @rangeFrom_toNat cfg (st'.checkpoint cfg).number (reads.toBlock cfg st + 1) ?_ ?_ ?_
    · rw [UInt64.le_iff_toNat_le]
      omega
    · rw [Int64.le_iff_toInt_le, toInt_toInt64 (by omega)]
      omega
    · omega
  refine ⟨hle, ?_⟩
  omega

/-- The accounts end where the scanner goes on. -/
structure OnTrack (cfg : Config) (start : Nat) (s : ScannerRun) : Prop where
  tiles : Tiles start (s.store.nextBlock cfg).toNat s.account
  pos : 1 ≤ start
  tidy : s.reporter.Tidy

omit [Sha2] in
theorem OnTrack.next_pos {start : Nat} (h : OnTrack cfg start s) : 1 ≤ (s.store.nextBlock cfg).toNat := by
  have hstart := h.tiles.consecutive.start_le
  rw [h.tiles.next] at hstart
  exact Nat.le_trans h.pos hstart

omit [Sha2] in
/-- The blocks behind the window and those of a round that goes on there are fewer than the height it ends at. -/
theorem OnTrack.room {start : Nat} {round : ScanRound} (h : OnTrack cfg start s)
    (hfrom : round.fromBlock.toNat = (s.store.nextBlock cfg).toNat) (hle : round.fromBlock.toNat ≤ round.toBlock.toNat) :
    s.reporter.Room round := by
  have hto := round.toBlock.toNat_lt
  have hnext := h.next_pos
  have hpos := h.pos
  have htiles := h.tiles
  unfold SyncReporter.Room ScanRound.size
  by_cases hblocks : 0 < s.reporter.blocks
  · rw [ScannerRun.account, SyncReporter.pending, if_pos hblocks] at htiles
    obtain ⟨hstart, -, -, hsize⟩ := htiles.last
    have hwindow : s.reporter.window.blocks = s.reporter.blocks := rfl
    rw [hwindow] at hsize
    omega
  · rw [eq_zero_of_not_pos hblocks]
    have hzero : (0 : UInt64).toNat = 0 := rfl
    omega

/-- What a pass that reports a round has done. -/
theorem committed_of_reported {env : ScanEnv} {round : ScanRound} (h : reported cfg env s.store = [round]) :
    ∃ reads batch, Committed cfg env s.store (scanOnce cfg env s.store).2 reads batch ∧
      round.fromBlock = s.store.nextBlock cfg ∧ round.toBlock = reads.toBlock cfg s.store := by
  obtain ⟨hok, hbusy⟩ := reported_eq_singleton h
  rcases scanOnce_ok hok with ⟨hidle, -⟩ | ⟨-, hdone⟩
  · rw [hidle] at hbusy
    cases hbusy
  · exact hdone

theorem OnTrack.hasRoom {start : Nat} {env : ScanEnv} (h : OnTrack cfg start s) (hbatch : 0 < cfg.ckb.batchBlocks)
    (hfits : PassFits cfg s.store env) : HasRoom cfg env s := by
  intro round hround
  obtain ⟨reads, batch, hc, hfrom, hto⟩ := committed_of_reported (reported_eq_of_mem hround)
  obtain ⟨hle, -⟩ := hc.nextBlock_after hbatch h.next_pos hfits
  rw [← hto, ← hfrom] at hle
  exact h.room (congrArg UInt64.toNat hfrom) hle

theorem OnTrack.pass {start : Nat} {env : ScanEnv} (h : OnTrack cfg start s) (hbatch : 0 < cfg.ckb.batchBlocks)
    (hfits : PassFits cfg s.store env) (now : Nat) (triggered : Bool) :
    OnTrack cfg start (s.pass cfg errorText env now triggered) := by
  have hafter := noted_scannerStep cfg env errorText s.store
  have hroom := h.hasRoom hbatch hfits
  refine ⟨?_, h.pos, tidy_pass h.tidy hroom now triggered⟩
  rcases @account_pass _ cfg errorText s h.tidy env hroom now triggered with ⟨hnone, hsame⟩ | ⟨round, hone, hgrown⟩
  · have hnoted : Noted cfg s.store (scanOnce cfg env s.store).2 := by
      rcases reported_eq_nil hnone with ⟨round, hok, hidle⟩ | ⟨e, herror⟩
      · rcases scanOnce_ok hok with ⟨-, hnoted⟩ | ⟨hbusy, -⟩
        · exact hnoted
        · rw [hidle] at hbusy
          cases hbusy
      · exact scanOnce_error herror hfits.2.2
    rw [hsame, ScannerRun.store_pass, (hnoted.trans hafter).nextBlock]
    exact h.tiles
  · obtain ⟨reads, batch, hc, hfrom, hto⟩ := committed_of_reported hone
    obtain ⟨hle, hnext⟩ := hc.nextBlock_after hbatch h.next_pos hfits
    rw [← hafter.nextBlock, ← @ScannerRun.store_pass _ cfg errorText s env now triggered] at hnext
    rw [← hto] at hle hnext
    rw [← hfrom] at hle
    rw [hnext]
    exact h.tiles.grown h.pos hgrown (congrArg UInt64.toNat hfrom) hle

omit [Sha2] in
theorem OnTrack.wake {start : Nat} (h : OnTrack cfg start s) (now : Nat) (stop : Bool) :
    OnTrack cfg start (s.wake now stop) := by
  refine ⟨?_, h.pos, tidy_wake h.tidy now stop⟩
  rw [account_wake, ScannerRun.store_wake]
  exact h.tiles

omit [Sha2] in
theorem OnTrack.start {st : Store} (hpos : 1 ≤ (st.nextBlock cfg).toNat) (interval now : Nat) :
    OnTrack cfg (st.nextBlock cfg).toNat (.start st interval now) where
  tiles := ⟨trivial, rfl, fun a ha => by cases ha⟩
  pos := hpos
  tidy := SyncReporter.tidy_new interval now

theorem Told.step {x x' : List ScanRound × ScannerRun} {event : RunEvent} (h : Fits x.1 → Told x.1 x.2)
    (hstep : (scannerRun cfg errorText).step x event x') (hfits : Fits x'.1) : Told x'.1 x'.2 := by
  cases event with
  | pass env now triggered =>
    obtain ⟨-, rfl⟩ := hstep
    exact (h hfits.of_append).pass hfits now triggered
  | wake now stop =>
    obtain ⟨-, rfl⟩ := hstep
    exact (h hfits).wake now stop

theorem OnTrack.step {start : Nat} {x x' : List ScanRound × ScannerRun} {event : RunEvent} (h : OnTrack cfg start x.2)
    (hbatch : 0 < cfg.ckb.batchBlocks) (hfits : EventFits cfg x event)
    (hstep : (scannerRun cfg errorText).step x event x') : OnTrack cfg start x'.2 := by
  cases event with
  | pass env now triggered =>
    obtain ⟨-, rfl⟩ := hstep
    exact h.pass hbatch hfits now triggered
  | wake now stop =>
    obtain ⟨-, rfl⟩ := hstep
    exact h.wake now stop

/-- **The log accounts for every round once**: in every run of the loop, whatever its rounds meet and whenever
its lines are printed, the lines and the window add up to the rounds that were reported, if the counters have room
for them all. -/
theorem told_of_run {x : List ScanRound × ScannerRun} {events : List RunEvent} {st : Store} {interval now : Nat}
    (hrun : (scannerRun cfg errorText).Run ([], .start st interval now) events x) (hfits : Fits x.1) : Told x.1 x.2 :=
  hrun.keeps (I := fun y => Fits y.1 → Told y.1 y.2) (fun _ _ _ hy hstep => Told.step hy hstep)
    (fun _ => Told.start st interval now) hfits

/-- **And for every block once**, from where the scanner started to its checkpoint: each line says how many blocks
its range has, and the ranges follow each other without a gap. -/
theorem log_tiles_blocks {x : List ScanRound × ScannerRun} {events : List RunEvent} {st : Store} {interval now : Nat}
    (hbatch : 0 < cfg.ckb.batchBlocks) (hpos : 1 ≤ (st.nextBlock cfg).toNat)
    (hrun : ((scannerRun cfg errorText).restrict (EventFits cfg)).Run ([], .start st interval now) events x) :
    Tiles (st.nextBlock cfg).toNat (x.2.store.nextBlock cfg).toNat x.2.account := by
  let kept (y : List ScanRound × ScannerRun) : Prop := OnTrack cfg (st.nextBlock cfg).toNat y.2
  have hstep : ∀ y event y', kept y → ((scannerRun cfg errorText).restrict (EventFits cfg)).step y event y' → kept y' :=
    fun y event y' hy hstep => OnTrack.step hy hbatch hstep.2 hstep.1
  have hstart : kept ([], .start st interval now) := OnTrack.start hpos interval now
  exact (hrun.keeps hstep hstart).tiles

end

/-! ## Three blocks -/

namespace Sample

/-- Two blocks a round, a line a second. -/
def toldStart : List ScanRound × ScannerRun := ([], .start .empty 1 0)

/-- The rounds of blocks 1 and 2 and of block 3, in one second. -/
def toldEvents : List RunEvent :=
  [.pass (env (chain.serve 3)) 1 false, .pass (env (chain.serve 3)) 1 false, .wake 2 true]

def toldAfter [Sha2] (n : Nat) : List ScanRound × ScannerRun :=
  (toldEvents.take n).foldl (fun x event =>
    match event with
    | .pass env now triggered =>
      (x.1 ++ reported (Config.testnet 2) env x.2.store, x.2.pass (Config.testnet 2) (fun _ => "") env now triggered)
    | .wake now stop => (x.1, x.2.wake now stop)) toldStart

end Sample

section
local instance progressSampleHash : Sha2 := .standard

open Sample in
theorem told_sample_run :
    ((scannerRun (Config.testnet 2) fun _ => "").restrict (EventFits (Config.testnet 2))).Run toldStart toldEvents
      (toldAfter 3) := by
  have hfits : ∀ tip, (env (chain.serve 3)).replies.syncedTip = .ok tip → tip.toNat + 1 < 2 ^ 63 := by
    intro tip htip
    have hthree : (env (chain.serve 3)).replies.syncedTip = .ok 3 := rfl
    rw [hthree] at htip
    cases htip
    decide
  refine .cons (t := toldAfter 1) ⟨⟨rfl, rfl⟩, hfits, by decide +kernel, rfl⟩ ?_
  refine .cons (t := toldAfter 2) ⟨⟨by decide +kernel, rfl⟩, hfits, by decide +kernel, rfl⟩ ?_
  exact .cons (t := toldAfter 3) ⟨⟨by decide +kernel, rfl⟩, trivial⟩ .nil

open Sample in
/-- One line of two blocks when the second is over, one of the third when the scanner stops. -/
theorem told_of_run_sample : (toldAfter 3).2.lines = [
      .sync { toAccount := ⟨1, 2, 2, 1, 1, 0, 0⟩, behind := 1, tip := 3 },
      .sync { toAccount := ⟨3, 3, 1, 0, 0, 0, 0⟩, behind := 0, tip := 3 }] ∧
    Told (toldAfter 3).1 (toldAfter 3).2 :=
  ⟨by decide +kernel, told_of_run told_sample_run.of_restrict
    ⟨by decide +kernel, by decide +kernel, by decide +kernel, by decide +kernel, by decide +kernel⟩⟩

open Sample in
theorem log_tiles_blocks_sample :
    ((toldAfter 3).2.account.map fun a => (a.first, a.last)) = [(1, 2), (3, 3)] ∧
      Tiles ((Store.empty.nextBlock (Config.testnet 2)).toNat) ((toldAfter 3).2.store.nextBlock (Config.testnet 2)).toNat
        (toldAfter 3).2.account :=
  ⟨by decide +kernel, log_tiles_blocks (by decide) (by decide +kernel) told_sample_run⟩

end
end RgbppIndexer
