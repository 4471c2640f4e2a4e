import ChatCommands.Logging.Event
import ChatCommands.Logging.Layout
import ChatCommands.Settings

/-!
# ChatCommands.Logging.Setup

Where log lines go. The root logger has a threshold, filters and handlers;
each handler writes to a sink, in a layout, and has filters of its own. A
record comes to one handler after the other. The filters of a handler and its
tagging layout tag the record, and it stays tagged for the handlers behind it.

Installing the tags adds one filter to the root and to each handler, and turns
each plain layout into a tagging one of the same text. A handler without a
layout stays without.
-/

namespace ChatCommands

/-- Where a handler writes. -/
inductive LogSink where
  /-- The console. -/
  | console
  /-- A file. -/
  | file (path : String)
deriving DecidableEq, Repr

/-- A handler of log records. -/
structure LogHandler where
  /-- Where it writes. -/
  sink : LogSink
  /-- How it lays out lines; without a layout a line is the message. -/
  layout : Option LogLayout
  /-- The number of its filters. -/
  filters : Nat := 0
deriving DecidableEq, Repr

namespace LogHandler

/-- Whether a handler has a tagging layout. -/
def isTagging (h : LogHandler) : Bool := (h.layout.map LogLayout.tagging).getD false

/-- A handler with the tags installed. Nothing if its text names no field in the style of
templates, which tagging layouts are in. -/
def tag? (h : LogHandler) : Option LogHandler :=
  match h.layout with
  | none => some { h with filters := h.filters + 1 }
  | some l =>
    if l.tagging then some { h with filters := h.filters + 1 }
    else (LogLayout.make? true (some l.text) .percent).map fun l =>
      { h with layout := some l, filters := h.filters + 1 }

/-- A record as a handler lays it out: tagged, if the handler tags it. -/
def tagged (h : LogHandler) (r : LogRecord) : LogRecord :=
  { r with tagged := r.tagged || 0 < h.filters || h.isTagging }

/-- What a handler writes for a record: its line, or nothing if there is none. -/
def written (h : LogHandler) (r : LogRecord) : String :=
  match h.layout with
  | none => r.message ++ "\n"
  | some l => ((l.line? r).map (· ++ "\n")).getD ""

/-- What each handler of a list writes for a record. -/
def writtenByAll : List LogHandler → LogRecord → List String
  | [], _ => []
  | h :: hs, r => h.written (h.tagged r) :: writtenByAll hs (h.tagged r)

end LogHandler

/-- The root logger. -/
structure LogSetup where
  /-- The least level that is written. -/
  threshold : Level
  /-- The handlers, in order. -/
  handlers : List LogHandler
  /-- The number of filters of the root. -/
  filters : Nat := 0
deriving DecidableEq, Repr

namespace LogSetup

/-- Installs the tags. -/
def installTags? (s : LogSetup) : Option LogSetup :=
  (s.handlers.mapM LogHandler.tag?).map fun hs =>
    { s with handlers := hs, filters := s.filters + 1 }

/-- Installs the tags several times. -/
def installTagsTimes? : (times : Nat) → LogSetup → Option LogSetup
  | 0, s => some s
  | times + 1, s => s.installTags?.bind (installTagsTimes? times)

/-- Sets up logging to the console and, if a file is named, to the file, in one tagging layout.
Nothing if the text of the layout names no field. -/
def ofSettings? (s : LogSettings) (text : Option String) : Option LogSetup := do
  let layout ← LogLayout.make? true text .percent
  let file := (s.file.filter (· ≠ "")).map LogSink.file
  installTags?
    { threshold := s.level
      handlers := (.console :: file.toList).map fun sink => ⟨sink, some layout, 0⟩ }

/-- Whether a record is written. -/
def passes (s : LogSetup) (r : LogRecord) : Bool := s.threshold.number ≤ r.level.number

/-- What each handler writes for some records, in order. -/
def output (s : LogSetup) (rs : List LogRecord) : List String :=
  (rs.filter s.passes).foldl
    (fun texts r => texts.zipWith (· ++ ·) (LogHandler.writtenByAll s.handlers r))
    (s.handlers.map fun _ => "")

end LogSetup

end ChatCommands
