/-
# What a file says of a setting

A record is read entry by entry, in the order of the document.  This module says what comes of it
for a single field: `HasEntry t node name value` holds if a mapping has the name as a key, and the
datum has a field exactly if there is such an entry (`field?_readNode`).  The step is
`lookup_readEntry`, what one entry adds to the fields before it; the rest is an induction on the
entries.

A `Setting` is a place in the settings file together with the place in the settings where its
value is kept.  Main fact: `Setting.settles`.  What a file settles for a setting is what is
written at the setting's own place, or its standard value if nothing is written there; no other
entry of the file has a part in it.

* §1  one record: a key that comes twice is a complaint, so at most one entry can have a name.
* §2  the settings, all of one type.  Each carries the proofs that what can be read at its place
      is a value, and that the settings made of a datum have this value; so the seven settings are
      seven values, and everything that is said of them is said once.
* §3  what a file settles for a setting, from the file over its document to the value.
-/
import Teardown.Proofs.GivenDurations
import Teardown.Settings.File

namespace Teardown

namespace Yaml

/-! ## 1. Entries of a record -/

/-- `t.HasEntry node name value`: the node is a mapping in which the name is the key of the value. -/
def Tree.HasEntry (t : Tree) (node : Node) (name : String) (value : Node) : Prop :=
  ∃ tag entries isWhole key keyTag style, t.resolve node = .mapping tag entries isWhole ∧
    (key, value) ∈ entries ∧ t.resolve key = .scalar keyTag name style

/-- The fields with those of one more entry. -/
def readEntry (t : Tree) (fields : Fields) (present : List (String × Datum)) (entry : Node × Node) :
    Reading (List (String × Datum)) := do
  let key ← readText "field identifier" (t.resolve entry.1)
  if (present.lookup key).isSome then .error (.duplicateField key)
  else
    match readField t fields key entry.2 with
    | some reading => (within (keyStep entry.1) reading).map fun datum => present ++ [(key, datum)]
    | none => closed entry.2.isWhole present

variable {t : Tree} {fields : Fields} {node : Node}

theorem readField_eq (t : Tree) : ∀ (fields : Fields) (key : String) (value : Node),
    readField t fields key value = (fields.schema? key).map fun schema => readNode t schema value
  | .none, _, _ => by rw [readField, Fields.schema?, Option.map_none]
  | .field name _ schema rest, key, value => by
    rw [readField, Fields.schema?, readField_eq t rest]
    split <;> rfl

theorem eq_ok_of_within {α : Type} {step : Step} {r : Reading α} {value : α}
    (h : within step r = .ok value) : r = .ok value := by
  cases r with
  | ok _ => exact h
  | error complaint => exact absurd h (by simp [within])

/-- What an entry that was read says: its key is a text that was not there before, and the value was read if
there is a field of that name. -/
theorem readEntry_ok {present present' : List (String × Datum)} {entry : Node × Node}
    (h : readEntry t fields present entry = .ok present') :
    ∃ keyTag key style, t.resolve entry.1 = .scalar keyTag key style ∧ present.lookup key = none ∧
      ((∃ datum, readField t fields key entry.2 = some (.ok datum) ∧
          present' = present ++ [(key, datum)]) ∨
        readField t fields key entry.2 = none ∧ present' = present) := by
  rw [readEntry] at h
  cases hkey : t.resolve entry.1 with
  | scalar keyTag key style =>
    rw [hkey] at h
    replace h : (if (present.lookup key).isSome then .error (.duplicateField key)
      else
        match readField t fields key entry.2 with
        | some reading =>
          (within (keyStep entry.1) reading).map fun datum => present ++ [(key, datum)]
        | none => closed entry.2.isWhole present) = (.ok present' : Reading _) := h
    split at h
    case isTrue => exact absurd h (by simp)
    case isFalse hnew =>
      refine ⟨keyTag, key, style, rfl, Option.not_isSome_iff_eq_none.1 hnew, ?_⟩
      split at h
      case h_1 reading hreading =>
        cases hdatum : within (keyStep entry.1) reading with
        | error complaint =>
          rw [hdatum] at h
          exact absurd h (by simp [Except.map])
        | ok datum =>
          rw [hdatum] at h
          exact .inl ⟨datum, by rw [hreading, eq_ok_of_within hdatum], (Except.ok.inj h).symm⟩
      case h_2 hreading =>
        rw [closed] at h
        split at h
        · exact .inr ⟨hreading, (Except.ok.inj h).symm⟩
        · exact absurd h (by simp)
  | _ =>
    rw [hkey] at h
    exact absurd h (by simp [readText, bind, Except.bind])

/-- **One entry**: a field is there after it exactly if it was there before, or the entry has its name and a
value that can be read. -/
theorem lookup_readEntry {present present' : List (String × Datum)} {entry : Node × Node}
    (h : readEntry t fields present entry = .ok present') (name : String) (part : Datum) :
    present'.lookup name = some part ↔ present.lookup name = some part ∨
      ∃ keyTag style, t.resolve entry.1 = .scalar keyTag name style ∧
        readField t fields name entry.2 = some (.ok part) := by
  obtain ⟨keyTag, key, style, hkey, hnew, hread⟩ := readEntry_ok h
  have hname : ∀ {keyTag' style'}, t.resolve entry.1 = .scalar keyTag' name style' → name = key := by
    intro keyTag' style' hscalar
    rw [hkey] at hscalar
    exact (Node.scalar.inj hscalar).2.1.symm
  rcases hread with ⟨datum, hread, rfl⟩ | ⟨hunknown, rfl⟩
  · -- The key is new, or it would have been refused; so no field before it hides this one.
    by_cases hsame : name = key
    · subst hsame
      simp [List.lookup_append, hnew, hkey, hread]
    · have hother : List.lookup name [(key, datum)] = none := by simp [hsame]
      rw [List.lookup_append, hother, Option.or_none]
      refine ⟨.inl, fun h => h.resolve_right ?_⟩
      rintro ⟨_, _, hscalar, -⟩
      exact hsame (hname hscalar)
  · refine ⟨.inl, fun h => h.resolve_right ?_⟩
    rintro ⟨_, _, hscalar, hread⟩
    obtain rfl := hname hscalar
    rw [hunknown] at hread
    exact absurd hread (by simp)

/-- **A run of entries**: a field is there exactly if it was there before, or an entry has its name and a
value that can be read; and all entries of that name have one. -/
theorem lookup_readEntries : ∀ {entries : List (Node × Node)} {present present' : List (String × Datum)},
    entries.foldlM (readEntry t fields) present = .ok present' → ∀ name : String,
    (∀ part, present'.lookup name = some part ↔ present.lookup name = some part ∨
      ∃ entry ∈ entries, ∃ keyTag style, t.resolve entry.1 = .scalar keyTag name style ∧
        readField t fields name entry.2 = some (.ok part)) ∧
    ∀ entry ∈ entries, ∀ keyTag style, t.resolve entry.1 = .scalar keyTag name style →
      ∀ reading, readField t fields name entry.2 = some reading → ∃ part, reading = .ok part
  | [], present, present', h, name => by
    obtain rfl := Except.ok.inj h
    simp
  | entry :: entries, present, present', h, name => by
    rw [List.foldlM_cons] at h
    cases hfirst : readEntry t fields present entry with
    | error complaint =>
      rw [hfirst] at h
      exact absurd h (by simp [bind, Except.bind])
    | ok between =>
      rw [hfirst] at h
      obtain ⟨hrest, hreadable⟩ := @lookup_readEntries entries between present' h name
      refine ⟨fun part => ?_, fun entry' hentry keyTag style hscalar reading hreading => ?_⟩
      · rw [hrest part, lookup_readEntry hfirst, or_assoc]
        simp only [List.mem_cons, exists_eq_or_imp]
      · rcases List.mem_cons.1 hentry with rfl | hentry
        · obtain ⟨_, key, _, hkey, -, hread⟩ := readEntry_ok hfirst
          rw [hkey] at hscalar
          obtain rfl := (Node.scalar.inj hscalar).2.1
          rcases hread with ⟨datum, hread, -⟩ | ⟨hunknown, -⟩
          · exact ⟨datum, Option.some.inj (hreading.symm.trans hread)⟩
          · rw [hunknown] at hreading
            exact absurd hreading (by simp)
        · exact hreadable entry' hentry keyTag style hscalar reading hreading

theorem closeRecord_ok {present : List (String × Datum)} {datum : Datum}
    (h : closeRecord fields present = .ok datum) : datum = .record present := by
  rw [closeRecord] at h
  split at h
  · exact absurd h (by simp)
  · exact (Except.ok.inj h).symm

/-- **A field of a record** that was read: it is there exactly if there is an entry of its name, and it is
what the value of such an entry is read as. -/
theorem field?_readNode {record name : String} {schema : Schema} {datum : Datum}
    (h : readNode t (.record record fields) node = .ok datum)
    (hschema : fields.schema? name = some schema) :
    (∀ part, datum.field? name = some part ↔
      ∃ value, t.HasEntry node name value ∧ readNode t schema value = .ok part) ∧
    ∀ value, t.HasEntry node name value → ∃ part, readNode t schema value = .ok part := by
  have hread : ∀ value, readField t fields name value = some (readNode t schema value) := by
    intro value
    rw [readField_eq, hschema, Option.map_some]
  cases hnode : t.resolve node with
  | mapping tag entries isWhole =>
    have hrun : readNode t (.record record fields) node =
        (entries.foldlM (readEntry t fields) [] >>= closed isWhole) >>= closeRecord fields := by
      rw [readNode]
      simp only [hnode, bind_assoc]
      rfl
    rw [hrun] at h
    cases hentries : entries.foldlM (readEntry t fields) [] with
    | error complaint =>
      rw [hentries] at h
      exact absurd h (by simp [bind, Except.bind])
    | ok present =>
      rw [hentries] at h
      have hdatum : datum = .record present := by
        cases isWhole with
        | true => exact closeRecord_ok h
        | false => exact absurd h (by simp [bind, Except.bind, closed])
      obtain ⟨hlookup, hreadable⟩ := lookup_readEntries hentries name
      have hentry : ∀ value, t.HasEntry node name value ↔
          ∃ key keyTag style, (key, value) ∈ entries ∧ t.resolve key = .scalar keyTag name style := by
        intro value
        constructor
        · rintro ⟨_, _, _, key, keyTag, style, hmapping, hmem, hkey⟩
          rw [hnode] at hmapping
          obtain ⟨-, rfl, -⟩ := Node.mapping.inj hmapping
          exact ⟨key, keyTag, style, hmem, hkey⟩
        · rintro ⟨key, keyTag, style, hmem, hkey⟩
          exact ⟨tag, entries, isWhole, key, keyTag, style, hnode, hmem, hkey⟩
      refine ⟨fun part => ?_, fun value hvalue => ?_⟩
      · rw [hdatum, Datum.field?, hlookup part]
        constructor
        · rintro (hnone | ⟨⟨key, value⟩, hmem, keyTag, style, hkey, hpart⟩)
          · exact absurd hnone (by simp)
          · rw [hread value] at hpart
            exact ⟨value, (hentry value).2 ⟨key, keyTag, style, hmem, hkey⟩, Option.some.inj hpart⟩
        · rintro ⟨value, hvalue, hpart⟩
          obtain ⟨key, keyTag, style, hmem, hkey⟩ := (hentry value).1 hvalue
          exact .inr ⟨(key, value), hmem, keyTag, style, hkey, by rw [hread value, hpart]⟩
      · obtain ⟨key, keyTag, style, hmem, hkey⟩ := (hentry value).1 hvalue
        exact hreadable (key, value) hmem keyTag style hkey _ (hread value)
  | _ =>
    -- Nothing is written there, so the record has no fields and the node no entries.
    have hnone : ∀ value, ¬ t.HasEntry node name value := by
      rintro value ⟨_, _, _, _, _, _, hmapping, -, -⟩
      rw [hnode] at hmapping
      exact absurd hmapping (by simp)
    refine ⟨fun part => ?_, fun value hvalue => absurd hvalue (hnone value)⟩
    rw [readNode] at h
    simp only [hnode] at h
    split at h
    case isTrue =>
      rw [closeRecord_ok h]
      refine ⟨fun hpart => absurd hpart (by simp [Datum.field?]), ?_⟩
      rintro ⟨value, hvalue, -⟩
      exact absurd hvalue (hnone value)
    case isFalse => exact absurd h (by simp)

end Yaml

/-! ## 2. Settings in a file -/

/-- A group of settings: the name under which a file may give it, how it is read there, and where it is
kept. -/
structure SettingGroup (σ : Type) where
  name : String
  schema : Schema
  ofDatum : Datum → σ
  standard : σ
  get : Settings → σ
  has_place : ∃ record outer, Settings.schema = .record record outer ∧ outer.schema? name = some schema
  get_standard : get .standard = standard
  get_ofDatum : ∀ datum, get (.ofDatum datum) = ((datum.field? name).map ofDatum).getD standard

namespace SettingGroup

/-- The settings of waits. -/
def wait : SettingGroup WaitSettings where
  name := "wait"
  schema := WaitSettings.schema
  ofDatum := .ofDatum
  standard := .standard
  get := Settings.wait
  has_place := ⟨_, _, rfl, rfl⟩
  get_standard := rfl
  get_ofDatum _ := rfl

/-- The settings of the log. -/
def log : SettingGroup LogSettings where
  name := "logging"
  schema := LogSettings.schema
  ofDatum := .ofDatum
  standard := .standard
  get := Settings.log
  has_place := ⟨_, _, rfl, rfl⟩
  get_standard := rfl
  get_ofDatum _ := rfl

end SettingGroup

/-- A setting: the group and the name under which a file may give it, how it is read there, and where it is
kept.  What can be read there is a value; and the settings of a datum have this value, or the standard one
if the datum has none. -/
structure Setting (α : Type) where
  group : String
  name : String
  schema : Schema
  value? : Datum → Option α
  get : Settings → α
  has_place : ∃ record outer inner fields, Settings.schema = .record record outer ∧
    outer.schema? group = some (.record inner fields) ∧ fields.schema? name = some schema
  is_value : ∀ {t node datum}, Yaml.readNode t schema node = .ok datum → ∃ value, value? datum = some value
  get_ofDatum : ∀ datum, get (.ofDatum datum) =
    (((datum.field? group).bind (Datum.field? · name)).bind value?).getD (get .standard)

namespace Setting

/-! ### Reading the values -/

theorem eq_of_map_ok {α : Type} {f : α → Datum} {r : Reading α} {datum : Datum}
    (h : r.map f = .ok datum) : ∃ value, datum = f value := by
  cases r with
  | ok value => exact ⟨value, (Except.ok.inj h).symm⟩
  | error complaint => exact absurd h (by simp [Except.map])

section Values

variable {t : Yaml.Tree} {node : Yaml.Node} {datum : Datum}

theorem duration?_of_read (h : Yaml.readNode t .duration node = .ok datum) :
    ∃ d, datum.duration? = some d := by
  rw [Yaml.readNode] at h
  cases hnumber : Yaml.readNumber (t.resolve node) with
  | error complaint =>
    rw [hnumber] at h
    exact absurd h (by simp [Except.bind])
  | ok x =>
    rw [hnumber] at h
    obtain ⟨d, rfl⟩ := readDuration_ok h
    exact ⟨d, rfl⟩

theorem number?_of_read (h : Yaml.readNode t .number node = .ok datum) :
    ∃ x, datum.number? = some x := by
  rw [Yaml.readNode] at h
  obtain ⟨x, rfl⟩ := eq_of_map_ok h
  exact ⟨x, rfl⟩

theorem flag?_of_read (h : Yaml.readNode t .flag node = .ok datum) :
    ∃ value, datum.flag? = some value := by
  rw [Yaml.readNode] at h
  obtain ⟨value, rfl⟩ := eq_of_map_ok h
  exact ⟨value, rfl⟩

theorem text?_of_read (h : Yaml.readNode t .text node = .ok datum) :
    ∃ text, datum.text? = some text := by
  rw [Yaml.readNode] at h
  obtain ⟨text, rfl⟩ := eq_of_map_ok h
  exact ⟨text, rfl⟩

end Values

/-! ### The settings -/

variable {α σ : Type}

/-- A setting of a group. -/
def inGroup (group : SettingGroup σ) (name : String) (schema : Schema) (value? : Datum → Option α)
    (get : σ → α)
    (has_place : ∃ inner fields, group.schema = .record inner fields ∧ fields.schema? name = some schema)
    (is_value : ∀ {t node datum}, Yaml.readNode t schema node = .ok datum →
      ∃ value, value? datum = some value)
    (get_ofDatum : ∀ part, get (group.ofDatum part) =
      ((part.field? name).bind value?).getD (get group.standard)) : Setting α where
  group := group.name
  name := name
  schema := schema
  value? := value?
  get settings := get (group.get settings)
  has_place := by
    obtain ⟨record, outer, houter, hgroup⟩ := group.has_place
    obtain ⟨inner, fields, hinner, hschema⟩ := has_place
    exact ⟨record, outer, inner, fields, houter, by rw [hgroup, hinner], hschema⟩
  is_value := is_value
  get_ofDatum datum := by
    rw [group.get_ofDatum, group.get_standard]
    cases datum.field? group.name with
    | none => rfl
    | some part => exact get_ofDatum part

/-- How long a wait may last. -/
def timeout : Setting Duration :=
  inGroup .wait "timeout" .duration Datum.duration? (·.timeout) ⟨_, _, rfl, rfl⟩ duration?_of_read
    fun _ => rfl

/-- The pause before the second question. -/
def initialDelay : Setting Duration :=
  inGroup .wait "initial_delay" .duration Datum.duration? (·.initialDelay) ⟨_, _, rfl, rfl⟩
    duration?_of_read fun _ => rfl

/-- The largest pause. -/
def maxDelay : Setting Duration :=
  inGroup .wait "max_delay" .duration Datum.duration? (·.maxDelay) ⟨_, _, rfl, rfl⟩ duration?_of_read
    fun _ => rfl

/-- The growth of the pauses. -/
def multiplier : Setting Binary64 :=
  inGroup .wait "backoff_multiplier" .number Datum.number? (·.multiplier) ⟨_, _, rfl, rfl⟩ number?_of_read
    fun _ => rfl

def jitter : Setting Bool :=
  inGroup .wait "jitter" .flag Datum.flag? (·.jitter) ⟨_, _, rfl, rfl⟩ flag?_of_read fun _ => rfl

def format : Setting LogFormat :=
  inGroup .log "format" LogFormat.schema (fun datum => some (LogFormat.ofDatum datum)) (·.format)
    ⟨_, _, rfl, rfl⟩ (fun _ => ⟨_, rfl⟩) fun part => by
      show (LogSettings.ofDatum part).format = _
      rw [LogSettings.ofDatum]
      cases part.field? "format" <;> rfl

def filter : Setting String :=
  inGroup .log "filter" .text Datum.text? (·.filter) ⟨_, _, rfl, rfl⟩ text?_of_read fun _ => rfl

/-! ## 3. What a file settles -/

variable (setting : Setting α) (files : Files) (path : Option String)

/-- `setting.Stands files path t node`: a file is named, and the node of its document `t` stands at the
setting's place. -/
def Stands (t : Yaml.Tree) (node : Yaml.Node) : Prop :=
  ∃ name text group, path = some name ∧ files.text name = .ok text ∧ t = .ofText text.toList ∧
    t.HasEntry t.root setting.group group ∧ t.HasEntry group setting.name node

/-- `setting.Gives files path value`: what stands at the setting's place is read as the value. -/
def Gives (value : α) : Prop :=
  ∃ t node datum, setting.Stands files path t node ∧
    Yaml.readNode t setting.schema node = .ok datum ∧ setting.value? datum = some value

/-- `setting.FromFile files path value`: the file gives the value, or nothing stands at the setting's place
and the value is the standard one. -/
def FromFile (value : α) : Prop :=
  setting.Gives files path value ∨
    (¬ ∃ t node, setting.Stands files path t node) ∧ value = setting.get .standard

/-- `setting.Settles files path value`: the value is the only one that the setting has by the file. -/
def Settles (value : α) : Prop := ∀ value', setting.FromFile files path value' ↔ value' = value

end Setting

/-- `OfFile files path file`: the settings below the overrides are those of the file, if one is named. -/
inductive Settings.OfFile (files : Files) : Option String → Settings → Prop
  | standard : OfFile files none .standard
  | read {name : String} {file : Settings} :
      Settings.ofFile files name = .ok file → OfFile files (some name) file

/-- What was read of a file. -/
theorem Settings.ofFile_eq_ok {files : Files} {name : String} {file : Settings}
    (h : Settings.ofFile files name = .ok file) : ∃ text datum, files.text name = .ok text ∧
      Yaml.readNode (.ofText text.toList) Settings.schema (Yaml.Tree.ofText text.toList).root =
        .ok datum ∧ file = .ofDatum datum := by
  rw [Settings.ofFile] at h
  split at h
  case h_1 => exact absurd h (by simp)
  case h_2 text htext =>
    refine ⟨text, ?_⟩
    cases hdatum : Yaml.readNode (.ofText text.toList) Settings.schema
        (Yaml.Tree.ofText text.toList).root with
    | error complaint =>
      have hread : Settings.ofText text = .error complaint := by
        rw [Settings.ofText, Yaml.read, hdatum]
        rfl
      rw [hread] at h
      cases complaint <;> exact absurd h (by simp [Outcome.overflow])
    | ok datum =>
      have hread : Settings.ofText text = (if (Yaml.Tree.ofText text.toList).isWhole &&
          !(Yaml.Tree.ofText text.toList).hasMore then .ok datum
          else .error .unreadable : Reading Datum).map .ofDatum := by
        rw [Settings.ofText, Yaml.read, hdatum]
        rfl
      rw [hread] at h
      cases hwhole : (Yaml.Tree.ofText text.toList).isWhole &&
          !(Yaml.Tree.ofText text.toList).hasMore with
      | true =>
        rw [hwhole] at h
        exact ⟨datum, htext, rfl, (Outcome.ok.inj h).symm⟩
      | false =>
        rw [hwhole] at h
        exact absurd h (by simp [Except.map])

section FromFile

variable {α : Type} {setting : Setting α} {files : Files} {path : Option String}

/-- What a datum that was read has at a setting's place: it is there exactly if something stands there, and
it is what that is read as. -/
theorem Setting.leaf_readNode {t : Yaml.Tree} {datum : Datum}
    (h : Yaml.readNode t Settings.schema t.root = .ok datum) :
    (∀ leaf, (datum.field? setting.group).bind (Datum.field? · setting.name) = some leaf ↔
      ∃ group node, t.HasEntry t.root setting.group group ∧ t.HasEntry group setting.name node ∧
        Yaml.readNode t setting.schema node = .ok leaf) ∧
    ∀ group node, t.HasEntry t.root setting.group group → t.HasEntry group setting.name node →
      ∃ leaf, Yaml.readNode t setting.schema node = .ok leaf := by
  obtain ⟨record, outer, inner, fields, hrecord, hgroup, hschema⟩ := setting.has_place
  rw [hrecord] at h
  obtain ⟨hpart, hreadable⟩ := Yaml.field?_readNode h hgroup
  refine ⟨fun leaf => ?_, fun group node hentry hnode => ?_⟩
  · rw [Option.bind_eq_some_iff]
    constructor
    · rintro ⟨part, hdatum, hleaf⟩
      obtain ⟨group, hentry, hread⟩ := (hpart part).1 hdatum
      obtain ⟨node, hnode, hread⟩ := ((Yaml.field?_readNode hread hschema).1 leaf).1 hleaf
      exact ⟨group, node, hentry, hnode, hread⟩
    · rintro ⟨group, node, hentry, hnode, hleaf⟩
      obtain ⟨part, hread⟩ := hreadable group hentry
      exact ⟨part, (hpart part).2 ⟨group, hentry, hread⟩,
        ((Yaml.field?_readNode hread hschema).1 leaf).2 ⟨node, hnode, hleaf⟩⟩
  · obtain ⟨part, hread⟩ := hreadable group hentry
    exact (Yaml.field?_readNode hread hschema).2 node hnode

/-- What stands at a setting's place in a file that was read can be read. -/
theorem Setting.read_of_stands {file : Settings} (h : Settings.OfFile files path file)
    {t : Yaml.Tree} {node : Yaml.Node} (hstands : setting.Stands files path t node) :
    ∃ datum, Yaml.readNode t setting.schema node = .ok datum := by
  obtain ⟨name, text, group, rfl, htext, rfl, hgroup, hnode⟩ := hstands
  cases h with
  | read hfile =>
    obtain ⟨text', datum, htext', hread, rfl⟩ := Settings.ofFile_eq_ok hfile
    obtain rfl := Except.ok.inj (htext'.symm.trans htext)
    exact (setting.leaf_readNode hread).2 group node hgroup hnode

/-- **What a file settles** for a setting is the value that the settings below the overrides have. -/
theorem Setting.settles {file : Settings} (h : Settings.OfFile files path file) :
    setting.Settles files path (setting.get file) := by
  intro value
  cases h with
  | standard =>
    have hnothing : ¬ ∃ t node, setting.Stands files none t node := by
      rintro ⟨_, _, _, _, _, hpath, -⟩
      exact absurd hpath (by simp)
    constructor
    · rintro (⟨t, node, _, hstands, -⟩ | ⟨-, rfl⟩)
      · exact absurd ⟨t, node, hstands⟩ hnothing
      · rfl
    · exact fun hvalue => .inr ⟨hnothing, hvalue⟩
  | @read name _ hfile =>
    obtain ⟨text, datum, htext, hread, rfl⟩ := Settings.ofFile_eq_ok hfile
    obtain ⟨hleaf, hreadable⟩ := setting.leaf_readNode hread
    have hstands : ∀ t node, setting.Stands files (some name) t node ↔ t = .ofText text.toList ∧
        ∃ group, t.HasEntry t.root setting.group group ∧ t.HasEntry group setting.name node := by
      intro t node
      constructor
      · rintro ⟨name', text', group, hname, htext', rfl, hgroup, hnode⟩
        obtain rfl := Option.some.inj hname
        obtain rfl := Except.ok.inj (htext.symm.trans htext')
        exact ⟨rfl, group, hgroup, hnode⟩
      · rintro ⟨rfl, group, hgroup, hnode⟩
        exact ⟨name, text, group, rfl, htext, rfl, hgroup, hnode⟩
    rw [setting.get_ofDatum]
    cases hfound : (datum.field? setting.group).bind (Datum.field? · setting.name) with
    | none =>
      -- All that stands there would have been read, so nothing does.
      have hnothing : ¬ ∃ t node, setting.Stands files (some name) t node := by
        rintro ⟨t, node, hnode⟩
        obtain ⟨rfl, group, hgroup, hnode⟩ := (hstands t node).1 hnode
        obtain ⟨leaf, hnode'⟩ := hreadable group node hgroup hnode
        have hsome := (hleaf leaf).2 ⟨group, node, hgroup, hnode, hnode'⟩
        rw [hfound] at hsome
        exact absurd hsome (by simp)
      constructor
      · rintro (⟨t, node, _, hnode, -⟩ | ⟨-, rfl⟩)
        · exact absurd ⟨t, node, hnode⟩ hnothing
        · rfl
      · exact fun hvalue => .inr ⟨hnothing, hvalue⟩
    | some leaf =>
      obtain ⟨group, node, hgroup, hnode, hnodeRead⟩ := (hleaf leaf).1 hfound
      obtain ⟨value', hvalue'⟩ := setting.is_value hnodeRead
      have hget : ((some leaf).bind setting.value?).getD (setting.get .standard) = value' := by
        rw [Option.bind_some, hvalue', Option.getD_some]
      rw [hget]
      constructor
      · rintro (⟨t, node', leaf', hnode', hread', hvalue⟩ | ⟨hnothing, -⟩)
        · obtain ⟨rfl, group', hgroup', hnode'⟩ := (hstands t node').1 hnode'
          have hsame := (hleaf leaf').2 ⟨group', node', hgroup', hnode', hread'⟩
          rw [hfound] at hsame
          obtain rfl := Option.some.inj hsame
          exact Option.some.inj (hvalue.symm.trans hvalue')
        · exact absurd ⟨_, node, (hstands _ node).2 ⟨rfl, group, hgroup, hnode⟩⟩ hnothing
      · rintro rfl
        exact .inl ⟨_, node, leaf, (hstands _ node).2 ⟨rfl, group, hgroup, hnode⟩, hnodeRead, hvalue'⟩

end FromFile

end Teardown
