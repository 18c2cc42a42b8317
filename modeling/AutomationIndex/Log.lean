/-! Log records, and computations that log and may fail. -/

namespace AutomationIndex

/-- How serious a log record is. -/
inductive LogLevel where
  | debug
  | info
  | warning
  | error
  | critical
  deriving DecidableEq, Repr

namespace LogLevel

/-- The levels from the least serious one on. -/
def all : List LogLevel :=
  [debug, info, warning, error, critical]

/-- The written name of a level. -/
def name : LogLevel → String
  | debug => "DEBUG"
  | info => "INFO"
  | warning => "WARNING"
  | error => "ERROR"
  | critical => "CRITICAL"

/-- The place of a level in the order of seriousness. -/
def rank : LogLevel → Nat
  | debug => 0
  | info => 1
  | warning => 2
  | error => 3
  | critical => 4

/-- The level that a text names. -/
def ofName? (text : String) : Option LogLevel :=
  all.find? fun level => level.name == text

end LogLevel

/-- A message of a part of the program. -/
structure LogRecord where
  level : LogLevel
  /-- The part that speaks. -/
  speaker : String
  message : String
  deriving DecidableEq, Repr

/-- Whether a record is serious enough to be kept at a level. -/
def LogRecord.passes (threshold : LogLevel) (record : LogRecord) : Bool :=
  threshold.rank ≤ record.level.rank

/-- What a computation that logs comes to: its records stay when it fails. -/
structure Logged (ε α : Type) where
  records : List LogRecord
  result : Except ε α

namespace Logged

variable {ε α β : Type}

/-- A result without records. -/
def ofExcept (result : Except ε α) : Logged ε α :=
  ⟨[], result⟩

/-- Continues a computation that did not fail; the records of both follow each other. -/
def andThen (first : Logged ε α) (next : α → Logged ε β) : Logged ε β :=
  match first.result with
  | .error fault => ⟨first.records, .error fault⟩
  | .ok a => ⟨first.records ++ (next a).records, (next a).result⟩

instance : Monad (Logged ε) where
  pure a := ⟨[], .ok a⟩
  bind := andThen

/-- One record, and nothing else. -/
def record (level : LogLevel) (speaker message : String) : Logged ε Unit :=
  ⟨[⟨level, speaker, message⟩], .ok ()⟩

/-- A failure. -/
def fail (fault : ε) : Logged ε α :=
  ⟨[], .error fault⟩

/-- The same computation with its fault seen as another one. -/
def mapFault {δ : Type} (f : ε → δ) (logged : Logged ε α) : Logged δ α :=
  ⟨logged.records, logged.result.mapError f⟩

/-- Runs a computation for each element and collects what it finds. -/
def collect (f : α → Logged ε (Option β)) : List α → Logged ε (List β)
  | [] => pure []
  | a :: rest => do
    let found ← f a
    let others ← collect f rest
    return found.toList ++ others

end Logged

end AutomationIndex
