/-
Records of what a program does, for its operator.

A record with a number or a failure in it that cannot be written is dropped by the log, and changes
nothing else: it stands here with the number in full and `<cause>` for the failure.
-/
namespace StakeRegistry

/-- How much a record matters. -/
inductive LogLevel where
  | debug
  | info
  | warning
  | error
  deriving Repr, DecidableEq

/-- The name of a level as it is written. -/
def LogLevel.name : LogLevel → String
  | debug => "DEBUG"
  | info => "INFO"
  | warning => "WARNING"
  | error => "ERROR"

/-- Is a record of the level shown? Those of the lowest level are shown on request. -/
def LogLevel.isShown (verbose : Bool) : LogLevel → Bool
  | debug => verbose
  | _ => true

/-- The lowest level that is shown. -/
def LogLevel.lowest (verbose : Bool) : LogLevel :=
  if verbose then debug else info

/-- The part of the program that a record comes from. -/
inductive LogSource where
  /-- The submission of a single transaction. -/
  | submission
  /-- The account's nonces and the batches. -/
  | batches
  /-- The reader of files of environment variables. -/
  | envFile
  deriving Repr, DecidableEq

/-- The name of a source as it is written. -/
def LogSource.name : LogSource → String
  | submission => "operations.utils.tx_utils"
  | batches => "operations.utils.chain_utils"
  | envFile => "dotenv.main"

/-- One record. -/
structure LogRecord where
  level : LogLevel
  source : LogSource
  message : String
  deriving Repr, DecidableEq

/-- A record with its level in front. -/
def LogRecord.text (r : LogRecord) : String :=
  r.level.name ++ " " ++ r.message

/-- A record as a line of the log: the time, the level, the source and the message. -/
def LogRecord.line (r : LogRecord) (time : String) : String :=
  time ++ " " ++ r.level.name ++ " " ++ r.source.name ++ ": " ++ r.message

end StakeRegistry
