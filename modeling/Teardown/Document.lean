/-
# Documents of the domain

Stacks, updates and settings as they are read and written.  Each has three parts: its schema,
which says what a reader accepts and where it complains; `ofDatum`, which makes it of a datum that
the schema has accepted; and `toJson`, which writes it.

`ofDatum` is total.  What the schema does not accept never reaches it, so where a member is
missing that the schema requires, it takes some default.  Where a member may be missing, the
default is that of the settings, or nothing at all.

A kind of stack and a format of the log are one of some words.  The statuses are texts, since the
remote side may use a word that nobody has thought of.

* §1-3  stacks, updates and settings.  Lengths of time are written as numbers of seconds, as they
        are read.
-/
import Teardown.Json.Shape
import Teardown.Settings
import Teardown.Stack
import Teardown.Update

namespace Teardown

/-- A duration in seconds. -/
def Duration.toJson (d : Duration) : Json := .real d.toSeconds

/-! ## 1. Stacks -/

def StackKind.schema : Schema := .word (StackKind.all.map StackKind.word)

/-- The kind of a word. -/
def StackKind.ofWord? (word : String) : Option StackKind :=
  StackKind.all.find? fun kind => kind.word = word

def StackStatus.schema : Schema := .text

def StackStatus.ofDatum (d : Datum) : StackStatus := .ofWord (d.text?.getD "")

/-- A stack.  Its id and its tags may be missing. -/
def Stack.schema : Schema :=
  .record "Stack"
    (.field "name" true .text <|
     .field "stack_id" false (.optional .text) <|
     .field "kind" true StackKind.schema <|
     .field "status" true StackStatus.schema <|
     .field "tags" false (.table .text) .none)

/-- The tags of a table. -/
def Tags.ofData (entries : List (String × Datum)) : Tags :=
  .ofList (entries.map fun (key, value) => (key, value.text?.getD ""))

def Stack.ofDatum (d : Datum) : Stack where
  name := d.textAt "name"
  id := d.textAt? "stack_id"
  kind := (StackKind.ofWord? (d.textAt "kind")).getD default
  status := .ofWord (d.textAt "status")
  tags := .ofData (d.entriesAt "tags")

def Tags.toJson (t : Tags) : Json := .object (t.entries.map fun (key, value) => (key, .text value))

/-- A stack; an unknown id is left out. -/
def Stack.toJson (s : Stack) : Json :=
  .object
    ([("kind", .text s.kind.word), ("name", .text s.name)] ++
      (s.id.map fun id => ("stack_id", Json.text id)).toList ++
      [("status", .text s.status.word), ("tags", s.tags.toJson)])

/-! ## 2. Updates -/

def UpdateStatus.schema : Schema := .word (UpdateStatus.all.map UpdateStatus.word)

def UpdateStatus.ofDatum (d : Datum) : UpdateStatus :=
  (UpdateStatus.ofWord? (d.text?.getD "")).getD default

def Update.schema : Schema :=
  .record "Update"
    (.field "id" true .text <|
     .field "update_type" true .text <|
     .field "status" true UpdateStatus.schema .none)

def Update.ofDatum (d : Datum) : Update where
  id := d.textAt "id"
  kind := d.textAt "update_type"
  status := ((d.field? "status").map UpdateStatus.ofDatum).getD default

def Update.toJson (u : Update) : Json :=
  .object [("id", .text u.id), ("status", .text u.status.word), ("update_type", .text u.kind)]

def LogSetup.schema : Schema :=
  .record "LogSetup" (.field "enabled" true .flag <| .field "types" true (.list .text) .none)

def LogSetup.ofDatum (d : Datum) : LogSetup where
  enabled := ((d.field? "enabled").bind Datum.flag?).getD false
  types := (d.itemsAt "types").filterMap Datum.text?

def LogSetup.toJson (s : LogSetup) : Json :=
  .object [("enabled", .bool s.enabled), ("types", .list (s.types.map .text))]

/-! ## 3. Settings -/

def LogFormat.schema : Schema := .word (["text", "json"])

def LogFormat.ofDatum (d : Datum) : LogFormat :=
  if d.text? = some "json" then .json else .text

/-- Settings of the log, all of which may be missing. -/
def LogSettings.schema : Schema :=
  .record "LoggingConfig"
    (.field "format" false LogFormat.schema <| .field "filter" false .text .none)

def LogSettings.ofDatum (d : Datum) : LogSettings where
  format := ((d.field? "format").map LogFormat.ofDatum).getD LogSettings.standard.format
  filter := (d.textAt? "filter").getD LogSettings.standard.filter

def LogSettings.toJson (s : LogSettings) : Json :=
  .object [("filter", .text s.filter), ("format", .text s.format.word)]

/-- Settings of waits, all of which may be missing. -/
def WaitSettings.schema : Schema :=
  .record "WaitConfig"
    (.field "timeout" false .duration <|
     .field "initial_delay" false .duration <|
     .field "max_delay" false .duration <|
     .field "backoff_multiplier" false .number <|
     .field "jitter" false .flag .none)

def WaitSettings.ofDatum (d : Datum) : WaitSettings :=
  let durationAt (name : String) (standard : Duration) : Duration :=
    ((d.field? name).bind Datum.duration?).getD standard
  { timeout := durationAt "timeout" standard.timeout
    initialDelay := durationAt "initial_delay" standard.initialDelay
    maxDelay := durationAt "max_delay" standard.maxDelay
    multiplier :=
      ((d.field? "backoff_multiplier").bind Datum.number?).getD standard.multiplier
    jitter := ((d.field? "jitter").bind Datum.flag?).getD standard.jitter }

def WaitSettings.toJson (w : WaitSettings) : Json :=
  .object [("backoff_multiplier", .real w.multiplier), ("initial_delay", w.initialDelay.toJson),
    ("jitter", .bool w.jitter), ("max_delay", w.maxDelay.toJson), ("timeout", w.timeout.toJson)]

/-- Settings, all of which may be missing. -/
def Settings.schema : Schema :=
  .record "StrataConfig"
    (.field "wait" false WaitSettings.schema <| .field "logging" false LogSettings.schema .none)

def Settings.ofDatum (d : Datum) : Settings where
  wait := ((d.field? "wait").map WaitSettings.ofDatum).getD .standard
  log := ((d.field? "logging").map LogSettings.ofDatum).getD .standard

def Settings.toJson (s : Settings) : Json :=
  .object [("logging", s.log.toJson), ("wait", s.wait.toJson)]

end Teardown
