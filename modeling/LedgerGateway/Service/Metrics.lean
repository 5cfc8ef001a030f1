import LedgerGateway.Service.Endpoint
import LedgerGateway.Service.Gateway

/-! Counts of what has been served, and their text for a monitor. -/

namespace LedgerGateway

/-- How often each key has been counted. A key that has not been counted is not listed. -/
abbrev Tally (κ : Type) := List (κ × Nat)

namespace Tally

variable {κ : Type} [DecidableEq κ]

def count (t : Tally κ) (k : κ) : Nat :=
  match t with
  | [] => 0
  | (k', n) :: rest => if k' = k then n else count rest k

/-- Counts a key once more. -/
def add (t : Tally κ) (k : κ) : Tally κ :=
  match t with
  | [] => [(k, 1)]
  | (k', n) :: rest => if k' = k then (k', n + 1) :: rest else (k', n) :: add rest k

theorem count_add (t : Tally κ) (k j : κ) :
    (t.add k).count j = t.count j + if k = j then 1 else 0 := by
  induction t with
  | nil => simp [add, count]
  | cons p rest ih =>
    obtain ⟨k', n⟩ := p
    by_cases h : k' = k <;> by_cases h' : k' = j <;> simp_all [add, count]
    intro e; exact absurd e.symm h

end Tally

structure Metrics where
  requests : Tally Endpoint := []
  /-- Errors by endpoint and code. -/
  errors : Tally (Endpoint × ErrorCode) := []
  /-- How often the fetching of a block has begun. -/
  blockFetches : Nat := 0
  deriving DecidableEq

namespace Metrics

def countRequest (m : Metrics) (e : Endpoint) : Metrics := { m with requests := m.requests.add e }

def countError (m : Metrics) (e : Endpoint) (code : ErrorCode) : Metrics :=
  { m with errors := m.errors.add (e, code) }

def countBlockFetch (m : Metrics) : Metrics := { m with blockFetches := m.blockFetches + 1 }

/-- Counts a request that an endpoint has answered. -/
def record (m : Metrics) (e : Endpoint) (o : Outcome) : Metrics :=
  let m := m.countRequest e
  let m := if o.fetchedBlock then m.countBlockFetch else m
  match o.result with
  | .ok _ => m
  | .error error => m.countError e error.code

/-! ### Text -/

/-- A labelled count. The labels are in the order of their names. -/
structure Sample where
  labels : List (String × String)
  count : Nat

/-- Whether the first text does not come after the second one in the order of their characters. -/
def textLE : List Char → List Char → Bool
  | [], _ => true
  | _ :: _, [] => false
  | c :: cs, d :: ds => if c = d then textLE cs ds else decide (c.toNat < d.toNat)

/-- Orders lists of texts by the first texts that differ. -/
def textsLE : List String → List String → Bool
  | [], _ => true
  | _ :: _, [] => false
  | s :: ss, t :: ts => if s = t then textsLE ss ts else textLE s.toList t.toList

/-- Orders samples by the texts of their labels. -/
def Sample.before (a b : Sample) : Bool := textsLE (a.labels.map Prod.snd) (b.labels.map Prod.snd)

def Sample.line (name : String) (s : Sample) : String :=
  let labels := s.labels.map fun l => l.1 ++ "=\"" ++ l.2 ++ "\""
  name ++ "\x7b" ++ ",".intercalate labels ++ "\x7d " ++ Decimal.natText s.count

/-- The two lines in front of a family of counts. -/
def heading (name help kind : String) : List String :=
  ["# HELP " ++ name ++ " " ++ help, "# TYPE " ++ name ++ " " ++ kind]

/-- A family of counters; without samples it is left out. -/
def counters (name help : String) (samples : List Sample) : List String :=
  if samples.isEmpty then []
  else heading name help "counter" ++ (samples.mergeSort Sample.before).map (Sample.line name)

/-- The families by name. Of the times that fetching took only their number is told. -/
def lines (m : Metrics) : List String :=
  let seconds := "rosetta_block_decode_seconds"
  heading seconds "Latency of fetching and decoding a block into operations" "histogram" ++
    [seconds ++ "_count " ++ Decimal.natText m.blockFetches] ++
    counters "rosetta_errors_total" "Rosetta errors returned, by endpoint and code"
      (m.errors.map fun p =>
        ⟨[("code", Decimal.natText p.1.2.number), ("endpoint", p.1.1.path)], p.2⟩) ++
    counters "rosetta_requests_total" "Rosetta requests served, by endpoint"
      (m.requests.map fun p => ⟨[("endpoint", p.1.path)], p.2⟩)

end Metrics

end LedgerGateway
