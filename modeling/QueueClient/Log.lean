/-
# Logging

Entries have a level, and a sink says which levels it accepts.  Whoever writes an entry asks
first (`Logger.accepts`); writing itself does not ask again, except that the level `off` is
never written.  Besides sinks of its own, a program can have a collector of trace events,
which takes everything up to a level of its own scale.
-/

namespace QueueClient

/-- How severe an entry is, from never written through most to least severe. -/
inductive Level where
  /-- Never written. -/
  | off
  | fatal
  | panic
  | error
  | warning
  | info
  | debug
deriving DecidableEq, Inhabited

namespace Level

/-- The place in the order of severity. -/
def rank : Level → Nat
  | off => 0
  | fatal => 1
  | panic => 2
  | error => 3
  | warning => 4
  | info => 5
  | debug => 6

/-- The name in capitals. -/
def text : Level → String
  | off => "NONE"
  | fatal => "FATAL"
  | panic => "PANIC"
  | error => "ERROR"
  | warning => "WARNING"
  | info => "INFO"
  | debug => "DEBUG"

/-- All levels in order. -/
def all : List Level := [off, fatal, panic, error, warning, info, debug]

/-- The name in small letters. -/
def name : Level → String
  | off => "none"
  | fatal => "fatal"
  | panic => "panic"
  | error => "error"
  | warning => "warning"
  | info => "info"
  | debug => "debug"

/-- The level with a name in small letters. -/
def ofName? (s : String) : Option Level := all.find? (·.name == s)

end Level

/-- How detailed a trace event is. -/
inductive TraceLevel where
  | error
  | warn
  | info
  | debug
  | trace
deriving DecidableEq, Inhabited

namespace TraceLevel

/-- The place in the order of detail. -/
def rank : TraceLevel → Nat
  | error => 0
  | warn => 1
  | info => 2
  | debug => 3
  | trace => 4

/-- The name in capitals. -/
def text : TraceLevel → String
  | error => "ERROR"
  | warn => "WARN"
  | info => "INFO"
  | debug => "DEBUG"
  | trace => "TRACE"

/-- The level with a name in small letters. -/
def ofName? (s : String) : Option TraceLevel :=
  [("error", error), ("warn", warn), ("info", info), ("debug", debug), ("trace", trace)].lookup s

end TraceLevel

/-- The trace level of an entry; entries of level `off` are not traced. -/
def Level.traceLevel? : Level → Option TraceLevel
  | .off => none
  | .fatal | .panic | .error => some .error
  | .warning => some .warn
  | .info => some .info
  | .debug => some .debug

/-- A trace event: where it comes from and its fields. -/
structure TraceEvent where
  /-- How detailed it is. -/
  level : TraceLevel
  /-- The part of the program it comes from. -/
  target : String
  /-- Named values; the text is called `message`. -/
  fields : List (String × String)
deriving DecidableEq, Inhabited

/-- What is left of logging: entries in the program's own sink, and events that the collector
took. -/
inductive LogRecord where
  | entry (level : Level) (text : String)
  | traced (event : TraceEvent)
deriving DecidableEq, Inhabited

/-- The collector of trace events: the level up to which it takes events, if there is one. -/
abbrev Collector := Option TraceLevel

/-- Whether events of a level are taken. -/
def Collector.takes (c : Collector) (l : TraceLevel) : Bool :=
  match c with
  | some most => l.rank ≤ most.rank
  | none => false

/-- What the collector keeps of an event. -/
def Collector.record (c : Collector) (e : TraceEvent) : List LogRecord :=
  if c.takes e.level then [.traced e] else []

/-- Where entries go. -/
inductive Sink where
  /-- Nowhere. -/
  | discard
  /-- To a writer that wants the levels that pass a test. -/
  | custom (accepts : Level → Bool)
  /-- To the collector of trace events. -/
  | trace

namespace Sink

/-- The test of a writer that wants a level and everything more severe. -/
def upTo (most : Level) : Sink := custom fun l => l != .off && l.rank ≤ most.rank

/-- Whether the sink wants entries of a level. -/
def accepts (s : Sink) (c : Collector) (l : Level) : Bool :=
  match s with
  | discard => false
  | custom p => p l
  | trace => match l.traceLevel? with
    | some t => c.takes t
    | none => false

/-- The event for an entry that goes to the collector. -/
def event (t : TraceLevel) (l : Level) (text : String) : TraceEvent :=
  { level := t, target := "queue_storage::pipeline"
    fields := ("message", text) :: (if t = .error then [("severity", l.text)] else []) }

/-- What a sink leaves of an entry, unasked. -/
def write (s : Sink) (c : Collector) (l : Level) (text : String) : List LogRecord :=
  match s with
  | discard => []
  | custom _ => [.entry l text]
  | trace => match l.traceLevel? with
    | some t => c.record (event t l text)
    | none => []

end Sink

/-- The logging that stages are given. -/
structure Logger where
  /-- Where entries go. -/
  sink : Sink
  /-- The collector of trace events. -/
  collector : Collector

namespace Logger

/-- Whether an entry of a level is wanted; to be asked before its text is made. -/
def accepts (g : Logger) (l : Level) : Bool := l != .off && g.sink.accepts g.collector l

/-- What is left of an entry. -/
def write (g : Logger) (l : Level) (text : String) : List LogRecord :=
  if l = .off then [] else g.sink.write g.collector l text

end Logger

end QueueClient
