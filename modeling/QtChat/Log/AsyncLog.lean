import QtChat.Interleave.Machine
import QtChat.Server.Json

/-!
# The log

`CAsyncLog` (`AsyncLog.cpp`): the threads that queue lines, the thread that writes them, and
`uninit`.

- `LogConfig.line`: the line that `output` makes. A fatal line is written by its thread, which then
  crashes the process; it is no step here.
- `LogSys`: the queue, the files and where the writer and `uninit` are. A thread holds
  `m_mutexWrite` between two steps only where the writer has found the queue empty and is about to
  wait (`Writer.checked`).
- `LogSys.step`, `logMachine`: the steps and their runs. The labels say what `fopen` and `fwrite`
  do.
-/

namespace QtChat

open Interleave

/-- `LOG_LEVEL`, in its order. -/
inductive LogLevel where
  | trace
  | debug
  | info
  | warning
  | error
  | syserror
  | fatal
  | critical
  deriving DecidableEq

def LogLevel.toNat : LogLevel → Nat
  | trace => 0
  | debug => 1
  | info => 2
  | warning => 3
  | error => 4
  | syserror => 5
  | fatal => 6
  | critical => 7

/-- What `init` and `setLevel` have set. -/
structure LogConfig where
  m_strFileName : Str
  m_strFileNamePID : Str
  m_nFileRollSize : Int
  m_nCurrentLevel : LogLevel
  m_bTruncateLongLog : Bool
  /-- `localtime_r` and `strftime` with `%Y%m%d%H%M%S`. -/
  szNow : Nat → Str

/-- A call of `output`: of the first kind, or with the file and the line number of the call. -/
structure LogCall where
  nLevel : LogLevel
  place : Option (Str × Nat)
  /-- The text that the format makes. -/
  strLogMsg : Str
  /-- What `getTime` writes. -/
  szTime : Str
  threadId : Str

/-- `makeLinePrefix`. -/
def LogCall.makeLinePrefix (c : LogCall) : Str :=
  (match c.nLevel with
    | .trace => txt "[TRACE]"
    | .debug => txt "[DEBUG]"
    | .info => txt "[INFO]"
    | .warning => txt "[WARN]"
    | .error => txt "[ERROR]"
    | .syserror => txt "[SYSE]"
    | .fatal => txt "[FATAL]"
    | .critical => txt "[CRITICAL]") ++
  c.szTime.take 63 ++ (txt "[" ++ c.threadId ++ txt "]").take 31

namespace LogConfig

/-- `MAX_LINE_LENGTH`. -/
def maxLineLength : Nat := 256

/-- The line that `output` makes; none if the level is too low. -/
def line (cfg : LogConfig) (c : LogCall) : Option Str :=
  if c.nLevel ≠ .critical ∧ c.nLevel.toNat < cfg.m_nCurrentLevel.toNat then none
  else
    let szFileName := match c.place with
      | some (file, nLineNo) => (txt "[" ++ file ++ txt ":" ++ decimal nLineNo ++ txt "]").take 511
      | none => []
    let strMsgFormal := if cfg.m_bTruncateLongLog then c.strLogMsg.take maxLineLength else c.strLogMsg
    some (c.makeLinePrefix ++ szFileName ++ strMsgFormal ++
      if cfg.m_strFileName ≠ [] then txt "\n" else [])

/-- The name of a file that is created at the time. -/
def newFileName (cfg : LogConfig) (now : Nat) : Str :=
  cfg.m_strFileName ++ txt "." ++ cfg.szNow now ++ txt "." ++ cfg.m_strFileNamePID ++ txt ".log"

end LogConfig

/-- The log files, in the order of their creation. -/
abbrev LogFiles := List (Str × Str)

namespace LogFiles

/-- `fopen(name, "w+")`: a file of that name is made empty. -/
def create (files : LogFiles) (name : Str) : LogFiles :=
  if name ∈ files.map Prod.fst then files.map fun f => if f.1 = name then (name, []) else f
  else files ++ [(name, [])]

/-- `fwrite` at the end of a file. -/
def append (files : LogFiles) (name data : Str) : LogFiles :=
  files.map fun f => if f.1 = name then (f.1, f.2 ++ data) else f

/-- The contents of the files, one after the other. -/
def contents (files : LogFiles) : Str := files.flatMap Prod.snd

end LogFiles

/-- Where `writeThreadProc` is. -/
inductive Writer where
  /-- At the top of its loop. -/
  | top
  /-- Before it has the mutex and tests the queue, also when it was woken. -/
  | lock
  /-- It has the mutex, has found the queue empty and `m_bExit` not set, and goes to wait. -/
  | checked
  /-- Blocked in `m_cvWrite.wait`. -/
  | waiting
  /-- In `writeToFile` with a line, of which `strLocal` is not written. -/
  | writing (strLine strLocal : Str)
  | finished
  deriving DecidableEq

/-- Where `uninit` is. -/
inductive Uninit where
  | before
  /-- `m_bExit` is set. -/
  | exiting
  /-- `notify_one` is done: in `join`. -/
  | notified
  | joined
  deriving DecidableEq

structure LogSys where
  now : Nat
  m_listLinesToWrite : List Str
  m_bExit : Bool
  /-- The name of the open file. -/
  m_hLogFile : Option Str
  m_nCurrentWrittenSize : Int
  files : LogFiles
  writer : Writer
  uninit : Uninit
  /-- All lines that were queued. -/
  queued : List Str

inductive LogLabel where
  /-- A thread calls `output`. -/
  | output (c : LogCall)
  /-- A thread calls `outputBinary`; what follows `address[`. -/
  | outputBinary (dump : Str)
  /-- The writer looks whether it needs a new file; `ok`: `fopen` succeeds. -/
  | roll (ok : Bool)
  /-- It takes the mutex and tests the queue. -/
  | test
  | wait
  /-- It wakes up without a notification. -/
  | spurious
  /-- `fwrite` takes so many bytes; 0: it fails. -/
  | fwrite (n : Nat)
  /-- `m_bExit = true`. -/
  | setExit
  /-- `notify_one` in `uninit`. -/
  | notify
  | join
  | tick (seconds : Nat)

namespace LogSys

/-- `notify_one`: the writer is the only thread that waits. -/
def wake : Writer → Writer
  | .waiting => .lock
  | w => w

/-- A line goes to the queue. -/
def push (s : LogSys) (strLine : Str) : LogSys :=
  { s with m_listLinesToWrite := s.m_listLinesToWrite ++ [strLine], writer := wake s.writer
           queued := s.queued ++ [strLine] }

/-- The writer needs a file. -/
def NeedsFile (cfg : LogConfig) (s : LogSys) : Prop :=
  cfg.m_strFileName ≠ [] ∧
    (s.m_hLogFile = none ∨ s.m_nCurrentWrittenSize ≥ cfg.m_nFileRollSize)

instance (cfg : LogConfig) (s : LogSys) : Decidable (s.NeedsFile cfg) :=
  inferInstanceAs (Decidable (_ ∧ _))

/-- The top of the writer's loop, with `createNewFile`. -/
def roll (cfg : LogConfig) (s : LogSys) (ok : Bool) : LogSys :=
  if s.NeedsFile cfg then
    if ok then
      { s with m_nCurrentWrittenSize := 0, m_hLogFile := some (cfg.newFileName s.now)
               files := s.files.create (cfg.newFileName s.now), writer := .lock }
    else { s with m_nCurrentWrittenSize := 0, m_hLogFile := none, writer := .finished }
  else { s with writer := .lock }

/-- The loop around the wait, from its test: it goes to wait, returns, or takes the first line. -/
def test (cfg : LogConfig) (s : LogSys) : LogSys :=
  match s.m_listLinesToWrite with
  | [] => { s with writer := if s.m_bExit then .finished else .checked }
  | strLine :: lines =>
    { s with m_listLinesToWrite := lines
             writer := if cfg.m_strFileName ≠ [] then .writing strLine strLine else .top }

/-- `fwrite` takes the data. -/
def store (s : LogSys) (data : Str) : LogSys :=
  { s with files := s.m_hLogFile.elim s.files fun name => s.files.append name data }

/-- `strLocal` after `fwrite` has returned `ret`, an `int` like the length that it is compared with.
-/
def erased (strLocal : Str) (ret : Int) : Str :=
  if ret ≤ toInt32 strLocal.length then strLocal.drop ret.toNat else strLocal

/-- A turn of the loop of `writeToFile`, in which `fwrite` takes `n` bytes. -/
def fwrite (s : LogSys) (strLine strLocal : Str) (n : Nat) : LogSys :=
  if toInt32 n ≤ 0 then { s.store (strLocal.take n) with writer := .finished }
  else if erased strLocal (toInt32 n) = [] then
    { s.store (strLocal.take n) with
      m_nCurrentWrittenSize := s.m_nCurrentWrittenSize + strLine.length, writer := .top }
  else
    { s.store (strLocal.take n) with writer := .writing strLine (erased strLocal (toInt32 n)) }

def step (cfg : LogConfig) : LogLabel → LogSys → Option LogSys
  | .output c, s =>
    if c.nLevel = .fatal ∨ s.writer = .checked then none
    else some ((cfg.line c).elim s s.push)
  | .outputBinary dump, s =>
    if s.writer = .checked then none else some (s.push (txt "address[" ++ dump))
  | .roll ok, s => if s.writer = .top then some (s.roll cfg ok) else none
  | .test, s => if s.writer = .lock then some (s.test cfg) else none
  | .wait, s => if s.writer = .checked then some { s with writer := .waiting } else none
  | .spurious, s => if s.writer = .waiting then some { s with writer := .lock } else none
  | .fwrite n, s =>
    match s.writer with
    | .writing strLine strLocal => if n ≤ strLocal.length then some (s.fwrite strLine strLocal n) else none
    | _ => none
  | .setExit, s => if s.uninit = .before then some { s with m_bExit := true, uninit := .exiting } else none
  | .notify, s =>
    if s.uninit = .exiting then some { s with writer := wake s.writer, uninit := .notified } else none
  | .join, s =>
    if s.uninit = .notified ∧ s.writer = .finished then
      some { s with m_hLogFile := none, uninit := .joined }
    else none
  | .tick seconds, s => some { s with now := s.now + seconds }

/-- After `init`, which starts the writer. -/
def started (now : Nat) : LogSys where
  now := now
  m_listLinesToWrite := []
  m_bExit := false
  m_hLogFile := none
  m_nCurrentWrittenSize := 0
  files := []
  writer := .top
  uninit := .before
  queued := []

end LogSys

/-- The log as a machine. -/
def logMachine (cfg : LogConfig) : Machine where
  State := LogSys
  Label := LogLabel
  init s := ∃ now, s = .started now
  step := LogSys.step cfg

end QtChat
