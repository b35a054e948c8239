/-
# Descriptors of stacks, written and read again

A stack is handed on as a JSON object, with its kind and its status as words; an id that is not
known is left out.  Reading the object gives the stack again, in whichever order its members come
(`Stack.ofJson_members`), and so does reading the text of the object.

The only thing that could get lost is the status.  A status is read from its word, so what comes
back is the status of the word (`StackStatus.ofWord`).  This is the same status for all statuses
that come from words, and it is another one for a status that keeps as an unknown word what has a
constructor of its own.  `stacks_survive` says both: just the stacks with a status from a word
survive.

* §1  words and statuses.
* §2  a table of tags is made again from its entries, since these are increasing by key and each
      of them comes last when it is added.
* §3, §4  each field by itself, and then the record: the members say of each field what the field
  is read as (`said_members`), and that settles what is read, in any order (`Json.read_record`).
  The text adds nothing to it, because a value without doubles is read back from its text as it
  is.
-/
import Teardown.Document
import Teardown.Proofs.JsonRecords
import Teardown.Proofs.JsonText

namespace Teardown

/-! ## 1. Words of statuses -/

namespace StackStatus

variable {status : StackStatus}

/-- A status with a constructor of its own is the status of its word. -/
theorem ofWord_word (h : ∀ other, status ≠ .other other) : ofWord status.word = status := by
  cases status with
  | other word => exact absurd rfl (h word)
  | _ => decide

/-- A status that comes from a word comes from its own word. -/
theorem exists_ofWord_iff : (∃ word, status = ofWord word) ↔ ofWord status.word = status := by
  constructor
  · rintro ⟨word, rfl⟩
    rw [word_ofWord]
  · exact fun h => ⟨_, h.symm⟩

/-- A constructor of its own stands for one word, and this word is never kept as an unknown one. -/
theorem ofWord_eq_iff (h : ∀ other, status ≠ .other other) (word : String) :
    (ofWord word = status ↔ word = status.word) ∧ ofWord word ≠ .other status.word := by
  have hown : ofWord word = status ↔ word = status.word := by
    rw [← ofWord_inj, ofWord_word h]
  refine ⟨hown, fun hother => ?_⟩
  have hword : word = status.word := by
    rw [← word_ofWord word, hother]
    rfl
  exact h _ ((hown.2 hword).symm.trans hother)

end StackStatus

/-! ## 2. Tags -/

namespace Tags

theorem eq_of_entries {t t' : Tags} (h : t.entries = t'.entries) : t = t' := by
  cases t
  cases t'
  cases h
  rfl

/-- A key that is larger than all others comes last. -/
theorem insertTag_eq_append {key value : String} {entries : List (String × String)}
    (h : ∀ entry ∈ entries, entry.1 < key) :
    insertTag key value entries = entries ++ [(key, value)] := by
  induction entries with
  | nil => rfl
  | cons entry entries ih =>
    have hless := h entry List.mem_cons_self
    have hbefore : ¬ key < entry.1 := String.lt_asymm hless
    have hother : key ≠ entry.1 := fun heq => String.lt_irrefl key (heq ▸ hless)
    rw [insertTag, if_neg hbefore, if_neg hother, ih fun other hother => h other (.tail _ hother)]
    rfl

/-- Entries that come in order are added behind each other. -/
theorem entries_foldl_insert {more : List (String × String)} {t : Tags}
    (h : ((t.entries ++ more).map Prod.fst).Pairwise (· < ·)) :
    (more.foldl (fun t entry => t.insert entry.1 entry.2) t).entries = t.entries ++ more := by
  induction more generalizing t with
  | nil => rw [List.foldl_nil, List.append_nil]
  | cons entry more ih =>
    have hlast : (t.insert entry.1 entry.2).entries = t.entries ++ [entry] := by
      refine insertTag_eq_append fun other hother => ?_
      rw [List.map_append, List.pairwise_append] at h
      exact h.2.2 _ (List.mem_map.2 ⟨other, hother, rfl⟩) _ List.mem_cons_self
    have hall : (t.insert entry.1 entry.2).entries ++ more = t.entries ++ entry :: more := by
      rw [hlast, List.append_assoc, List.singleton_append]
    rw [List.foldl_cons, ih (by rw [hall]; exact h), hall]

theorem ofList_entries (t : Tags) : ofList t.entries = t :=
  eq_of_entries (entries_foldl_insert (t := empty) t.increasing)

/-- The tags in a value. -/
def data (t : Tags) : List (String × Datum) := t.entries.map fun entry => (entry.1, .text entry.2)

theorem ofData_data (t : Tags) : ofData t.data = t := by
  rw [ofData, data, List.map_map]
  change ofList (t.entries.map fun entry => entry) = t
  rw [List.map_id', ofList_entries]

end Tags

/-! ## 3. Parts of a value -/

namespace Json

theorem read_text (content : String) : read .text (.text content) = .ok (.text content) := by
  rw [read, readText]

theorem read_optional_text (content : String) :
    read (.optional .text) (.text content) = .ok (.text content) := by
  rw [read, read_text]
  simp

end Json

theorem StackKind.ofWord?_word (kind : StackKind) : ofWord? kind.word = some kind := by
  cases kind <;> decide

theorem StackKind.read_word (kind : StackKind) :
    Json.read StackKind.schema (.text kind.word) = .ok (.text kind.word) := by
  rw [schema, Json.read]
  cases kind <;> rfl

theorem Tags.read_toJson (t : Tags) : Json.read (.table .text) t.toJson = .ok (.table t.data) := by
  have hentry : (fun entry : String × String =>
      (Json.read .text (.text entry.2)).map fun datum => (entry.1, datum)) =
        fun entry => pure (entry.1, Datum.text entry.2) := by
    funext entry
    rw [Json.read_text]
    rfl
  rw [toJson, Json.read]
  simp only [List.mapM_map]
  change ((t.entries.mapM fun entry =>
    (Json.read .text (.text entry.2)).map fun datum => (entry.1, datum)).map Datum.table) = _
  rw [hentry, List.mapM_pure]
  rfl

/-! ## 4. Values and texts of stacks -/

def Schema.fields : Schema → Fields
  | .record _ fields => fields
  | _ => .none

namespace Stack

/-- The members of a stack's value; there is one for the id if it is known. -/
def members (s : Stack) : List (String × Json) :=
  [("kind", .text s.kind.word), ("name", .text s.name)] ++
    (s.id.map fun id => ("stack_id", Json.text id)).toList ++
    [("status", .text s.status.word), ("tags", s.tags.toJson)]

/-- The stack that a value describes. -/
def ofJson (value : Json) : Reading Stack := (Json.read schema value).map ofDatum

/-- The stack that a text describes, if it describes one. -/
def ofText? (text : String) : Option Stack :=
  (Json.asWritten? text).bind fun value => (ofJson value).toOption

variable {s : Stack}

theorem nodup_members (s : Stack) : (s.members.map Prod.fst).Nodup := by
  cases hid : s.id <;> simp [members, hid]

theorem lookup_members (s : Stack) :
    s.members.lookup "name" = some (.text s.name) ∧
    s.members.lookup "stack_id" = s.id.map .text ∧
    s.members.lookup "kind" = some (.text s.kind.word) ∧
    s.members.lookup "status" = some (.text s.status.word) ∧
    s.members.lookup "tags" = some s.tags.toJson := by
  cases hid : s.id <;> simp [members, hid, List.lookup_cons]

theorem forall_mem_members {p : String × Json → Prop} : (∀ member ∈ s.members, p member) ↔
    p ("kind", .text s.kind.word) ∧ p ("name", .text s.name) ∧
      (∀ id, s.id = some id → p ("stack_id", .text id)) ∧
      p ("status", .text s.status.word) ∧ p ("tags", s.tags.toJson) := by
  cases hid : s.id <;> simp [members, hid]

theorem isExact_of_mem_members : ∀ member ∈ s.members, member.2.IsExact := by
  have htags : s.tags.toJson.IsExact := .object fun tag htag => by
    obtain ⟨entry, -, rfl⟩ := List.mem_map.1 htag
    exact .text
  exact forall_mem_members.2 ⟨.text, .text, fun _ _ => .text, .text, htags⟩

theorem readable_members (s : Stack) : Json.Readable schema.fields s.members := by
  refine forall_mem_members.2 ⟨?_, ?_, ?_, ?_, ?_⟩
  · rintro _ ⟨⟩
    exact ⟨_, s.kind.read_word⟩
  · rintro _ ⟨⟩
    exact ⟨_, Json.read_text s.name⟩
  · rintro id - _ ⟨⟩
    exact ⟨_, Json.read_optional_text id⟩
  · rintro _ ⟨⟩
    exact ⟨_, Json.read_text s.status.word⟩
  · rintro _ ⟨⟩
    exact ⟨_, s.tags.read_toJson⟩

theorem said_members (s : Stack) :
    Json.said schema.fields s.members "name" = some (.text s.name) ∧
    Json.said schema.fields s.members "stack_id" = s.id.map .text ∧
    Json.said schema.fields s.members "kind" = some (.text s.kind.word) ∧
    Json.said schema.fields s.members "status" = some (.text s.status.word) ∧
    Json.said schema.fields s.members "tags" = some (.table s.tags.data) := by
  obtain ⟨hname, hid, hkind, hstatus, htags⟩ := s.lookup_members
  refine ⟨Json.said_of_lookup rfl hname (Json.read_text s.name), ?_,
    Json.said_of_lookup rfl hkind s.kind.read_word,
    Json.said_of_lookup rfl hstatus (Json.read_text s.status.word),
    Json.said_of_lookup rfl htags s.tags.read_toJson⟩
  cases hknown : s.id with
  | none =>
    rw [hknown] at hid
    rw [Json.said, hid]
    rfl
  | some id =>
    rw [hknown] at hid
    exact Json.said_of_lookup rfl hid (Json.read_optional_text id)

theorem mem_members_of_required : ∀ name ∈ schema.fields.required, name ∈ s.members.map Prod.fst := by
  intro name hname
  obtain ⟨hname', -, hkind, hstatus, -⟩ := s.lookup_members
  obtain ⟨value, hvalue⟩ : ∃ value, s.members.lookup name = some value := by
    change name ∈ ["name", "kind", "status"] at hname
    simp only [List.mem_cons, List.not_mem_nil, or_false] at hname
    rcases hname with rfl | rfl | rfl
    · exact ⟨_, hname'⟩
    · exact ⟨_, hkind⟩
    · exact ⟨_, hstatus⟩
  exact List.mem_map.2 ⟨_, (lookup_eq_some_iff_mem s.nodup_members).1 hvalue, rfl⟩

/-- **A stack is read from its value**, in whichever order the members come; of the status only the word is
kept. -/
theorem ofJson_members {arranged : List (String × Json)} (h : arranged.Perm s.members) :
    ofJson (.object arranged) = .ok { s with status := .ofWord s.status.word } := by
  have hnames : (arranged.map Prod.fst).Nodup := (h.map Prod.fst).nodup_iff.2 s.nodup_members
  have hreadable : Json.Readable schema.fields arranged := fun member hmember =>
    s.readable_members member (h.mem_iff.1 hmember)
  have hrequired : ∀ name ∈ schema.fields.required, name ∈ arranged.map Prod.fst := fun name hname =>
    (h.map Prod.fst).mem_iff.2 (mem_members_of_required name hname)
  obtain ⟨datum, hread, hsaid⟩ := Json.read_record "Stack" hnames hreadable hrequired
  obtain ⟨hname, hid, hkind, hstatus, htags⟩ := s.said_members
  have hfield : ∀ name, datum.field? name = Json.said schema.fields s.members name := fun name => by
    rw [hsaid, Json.said, Json.said, lookup_perm h s.nodup_members]
  have hid' : (s.id.map Datum.text).bind Datum.text? = s.id := by cases s.id <;> rfl
  have hdatum : ofDatum datum = { s with status := .ofWord s.status.word } := by
    simp only [ofDatum, Datum.textAt, Datum.textAt?, Datum.entriesAt, hfield, hname, hid, hkind,
      hstatus, htags, Option.bind_some, Option.map_some, Datum.text?, Datum.entries,
      Option.getD_some, s.kind.ofWord?_word, s.tags.ofData_data, hid']
  have hschema : schema = .record "Stack" schema.fields := rfl
  rw [ofJson, hschema, hread, ← hdatum]
  rfl

/-- **A stack is read from its text**, too. -/
theorem ofText?_render {arranged : List (String × Json)} (h : arranged.Perm s.members) :
    ofText? (Json.object arranged).render = some { s with status := .ofWord s.status.word } := by
  have hexact : (Json.object arranged).IsExact := .object fun member hmember =>
    isExact_of_mem_members member (h.mem_iff.1 hmember)
  rw [ofText?, Json.asWritten?_render hexact, Option.bind_some, ofJson_members h]
  rfl

/-- A stack is the same with the status of its word exactly if its status comes from a word. -/
theorem eq_ofWord_iff :
    { s with status := .ofWord s.status.word } = s ↔ ∃ word, s.status = .ofWord word := by
  rw [StackStatus.exists_ofWord_iff]
  obtain ⟨name, id, kind, status, tags⟩ := s
  simp

end Stack

/-- **Descriptors of stacks survive.**  A status keeps the word that it comes from and nothing else, and a word
with a constructor of its own is never kept as an unknown one.  A stack with such a status is read again from
its value and from the text of its value, in whichever order the members are written, and no other stack is;
the id is left out exactly if it is not known. -/
theorem stacks_survive :
    (∀ word, (StackStatus.ofWord word).word = word) ∧
    (∀ word word', StackStatus.ofWord word = .ofWord word' ↔ word = word') ∧
    (∀ (status : StackStatus) (word : String), (∀ other, status ≠ .other other) →
      (StackStatus.ofWord word = status ↔ word = status.word) ∧
        StackStatus.ofWord word ≠ .other status.word) ∧
    ∀ s : Stack, s.toJson = .object s.members ∧ s.toJson.get? "stack_id" = s.id.map .text ∧
      ∀ arranged, arranged.Perm s.members →
        (Stack.ofJson (.object arranged) = .ok s ↔ ∃ word, s.status = .ofWord word) ∧
        (Stack.ofText? (Json.object arranged).render = some s ↔ ∃ word, s.status = .ofWord word) := by
  refine ⟨StackStatus.word_ofWord, fun _ _ => StackStatus.ofWord_inj,
    fun _ word h => StackStatus.ofWord_eq_iff h word, fun s => ⟨rfl, s.lookup_members.2.1, ?_⟩⟩
  intro arranged h
  rw [Stack.ofJson_members h, Stack.ofText?_render h, Except.ok.injEq, Option.some.injEq]
  exact ⟨Stack.eq_ofWord_iff, Stack.eq_ofWord_iff⟩

namespace Sample

/-- A node group whose id is not known, with a status without a constructor and characters that are escaped. -/
def imported : Stack where
  name := "strata-\"demo\"\n"
  id := none
  kind := .nodeGroup
  status := .ofWord "IMPORT_IN_PROGRESS"
  tags := .ofList [("team", "a\\b"), ("", "é")]

/-- Its members in the order of the fields. -/
def inFieldOrder : List (String × Json) :=
  [("name", .text imported.name), ("kind", .text imported.kind.word),
    ("status", .text imported.status.word), ("tags", imported.tags.toJson)]

/-- The same stack with a status that keeps a word for which there is a constructor. -/
def misnamed : Stack := { imported with status := .other "DELETE_COMPLETE" }

end Sample

/-- The node group survives, written in the order of the fields and without an id; the one with the other
status does not. -/
theorem stacks_survive_imported :
    Stack.ofText? (Json.object Sample.inFieldOrder).render = some Sample.imported ∧
    Sample.imported.toJson.get? "stack_id" = none ∧
    StackStatus.ofWord "DELETE_COMPLETE" ≠ .other "DELETE_COMPLETE" ∧
    Stack.ofText? (Json.object Sample.misnamed.members).render ≠ some Sample.misnamed := by
  obtain ⟨-, -, hown, hstack⟩ := stacks_survive
  obtain ⟨-, hid, hread⟩ := hstack Sample.imported
  have horder : Sample.inFieldOrder.Perm Sample.imported.members := .swap _ _ _
  have hnamed : ∀ word, StackStatus.ofWord word ≠ .other "DELETE_COMPLETE" := fun word =>
    (hown .deleteComplete word (by simp)).2
  refine ⟨(hread _ horder).2.2 ⟨"IMPORT_IN_PROGRESS", rfl⟩, hid, hnamed _, fun hsurvives => ?_⟩
  obtain ⟨word, hword⟩ := ((hstack Sample.misnamed).2.2 _ (.refl _)).2.1 hsurvives
  exact hnamed word hword.symm

end Teardown
