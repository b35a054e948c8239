/-
# Where durations come from

What a document says about lengths of time is written as numbers of seconds.  This module follows
them through the reader.  `Gives t schema node x` says that a node, read by a schema, gives the
number `x` where a duration is wanted, however deep in the node that is; `Datum.Holds d` says that
a datum holds a duration.

Main fact: `accounted_readNode`, by induction on the schema.  Every duration that a datum holds is
that of a number which the node gives; and if the reader breaks off over a number of seconds, then
the node gives that number.  All other complaints are of no interest here, so what is known of a
reading is stated by `Ends`, with a lemma for each way of putting readings together.

* §1  `Ends`, and `Plain` for readings that never break off.
* §2  durations inside a datum, and what it means that they are accounted for (`Accounted`).
* §3  the readers of single scalars are plain, one lemma each.
* §4, §5  what a reader adds around another one, and then the reader itself.

An alias may lead anywhere in the document.  So `Gives` follows it as the reader does, and the
induction is not on the node.
-/
import Teardown.Yaml.Shape

namespace Teardown

/-! ## 1. What is known of a reading -/

/-- What is known of a reading: something of its value, if it has one, and something of the cause, if it
breaks off over a number of seconds. -/
def Ends {α : Type} (good : α → Prop) (bad : Duration.Overflow → Prop) : Reading α → Prop
  | .ok value => good value
  | .error complaint => ∀ cause, complaint = .overflow cause → bad cause

/-- A reading that does not break off over a number of seconds. -/
def Plain {α : Type} (r : Reading α) : Prop := Ends (fun _ => True) (fun _ => False) r

section Ends

variable {α β : Type} {good : α → Prop} {good' : β → Prop} {bad : Duration.Overflow → Prop}
  {r : Reading α}

theorem Plain.ends (h : Plain r) (hgood : ∀ value, r = .ok value → good value) : Ends good bad r := by
  cases r with
  | ok value => exact hgood value rfl
  | error complaint => exact fun cause hcause => (h cause hcause).elim

theorem Plain.bind {f : α → Reading β} (h : Plain r)
    (hnext : ∀ value, r = .ok value → Ends good' bad (f value)) : Ends good' bad (r >>= f) := by
  cases r with
  | ok value => exact hnext value rfl
  | error complaint => exact fun cause hcause => (h cause hcause).elim

theorem Ends.mono {better : α → Prop} {worse : Duration.Overflow → Prop} (h : Ends good bad r)
    (hgood : ∀ value, good value → better value) (hbad : ∀ cause, bad cause → worse cause) :
    Ends better worse r := by
  cases r with
  | ok value => exact hgood value h
  | error complaint => exact fun cause hcause => hbad cause (h cause hcause)

theorem Ends.bind {f : α → Reading β} (h : Ends good bad r)
    (hnext : ∀ value, good value → Ends good' bad (f value)) : Ends good' bad (r >>= f) := by
  cases r with
  | ok value => exact hnext value h
  | error complaint => exact h

theorem Ends.map {f : α → β} (h : Ends good bad r) (hnext : ∀ value, good value → good' (f value)) :
    Ends good' bad (r.map f) := by
  cases r with
  | ok value => exact hnext value h
  | error complaint => exact h

theorem Ends.mapM {f : α → Reading β} : ∀ {items : List α},
    (∀ item ∈ items, Ends good' bad (f item)) →
    Ends (fun values => ∀ value ∈ values, good' value) bad (items.mapM f)
  | [], _ => by simp [List.mapM_nil, Ends, pure, Except.pure]
  | item :: items, h => by
    rw [List.mapM_cons]
    refine (h item List.mem_cons_self).bind fun value hvalue => ?_
    have hrest := Ends.mapM fun item' hitem => h item' (List.mem_cons_of_mem _ hitem)
    refine hrest.bind fun values hvalues value' hmem => ?_
    rcases List.mem_cons.1 hmem with rfl | hmem
    · exact hvalue
    · exact hvalues value' hmem

/-- A list that is read into something that grows: each item keeps what is known of it. -/
theorem Ends.foldlM {f : β → α → Reading β} : ∀ {items : List α} {start : β},
    good' start → (∀ value, ∀ item ∈ items, good' value → Ends good' bad (f value item)) →
    Ends good' bad (items.foldlM f start)
  | [], _, hstart, _ => hstart
  | item :: items, start, hstart, h => by
    rw [List.foldlM_cons]
    refine (h start item List.mem_cons_self hstart).bind fun value hvalue => ?_
    exact Ends.foldlM hvalue fun value' item' hitem => h value' item' (List.mem_cons_of_mem _ hitem)

end Ends

/-! ## 2. Durations in a datum -/

/-- `datum.Holds d`: the datum is, or has a part that is, the duration `d`. -/
inductive Datum.Holds (d : Duration) : Datum → Prop
  | here : Holds d (.duration d)
  | item {datum : Datum} {items : List Datum} : datum ∈ items → Holds d datum → Holds d (.list items)
  | entry {key : String} {datum : Datum} {entries : List (String × Datum)} :
      (key, datum) ∈ entries → Holds d datum → Holds d (.table entries)
  | field {name : String} {datum : Datum} {fields : List (String × Datum)} :
      (name, datum) ∈ fields → Holds d datum → Holds d (.record fields)

theorem Datum.Holds.of_field? {d : Duration} {datum part : Datum} {name : String}
    (h : part.Holds d) (hfield : datum.field? name = some part) : datum.Holds d := by
  cases datum with
  | record fields =>
    rw [Datum.field?] at hfield
    obtain ⟨before, after, hsplit, -⟩ := List.lookup_eq_some_iff.1 hfield
    have hmem : (name, part) ∈ fields := by simp [hsplit]
    exact .field hmem h
  | _ => exact absurd hfield (by simp [Datum.field?])

theorem Datum.holds_of_duration? {d : Duration} {datum : Datum} (h : datum.duration? = some d) :
    datum.Holds d := by
  cases datum with
  | duration value =>
    obtain rfl := Option.some.inj h
    exact .here
  | _ => exact absurd h (by simp [Datum.duration?])

/-- Each duration of a datum is that of a given number. -/
def Answers (given : Binary64 → Prop) (datum : Datum) : Prop :=
  ∀ d, datum.Holds d → ∃ x, given x ∧ readDuration x = .ok (.duration d)

/-- A given number has no duration, for a cause. -/
def Stops (given : Binary64 → Prop) (cause : Duration.Overflow) : Prop :=
  ∃ x, given x ∧ readDuration x = .error (.overflow cause)

/-- All durations of a reading are accounted for by given numbers, as is the number over which it breaks
off. -/
def Accounted (given : Binary64 → Prop) : Reading Datum → Prop := Ends (Answers given) (Stops given)

section Accounted

variable {given : Binary64 → Prop}

theorem Accounted.mono {more : Binary64 → Prop} {r : Reading Datum} (h : Accounted given r)
    (hmore : ∀ x, given x → more x) : Accounted more r := by
  refine Ends.mono h (fun datum hdatum d hd => ?_) (fun cause hcause => ?_)
  · obtain ⟨x, hx, hread⟩ := hdatum d hd
    exact ⟨x, hmore x hx, hread⟩
  · obtain ⟨x, hx, hread⟩ := hcause
    exact ⟨x, hmore x hx, hread⟩

theorem answers_list {items : List Datum} (h : ∀ datum ∈ items, Answers given datum) :
    Answers given (.list items) := by
  intro d hd
  cases hd with
  | item hmem hdatum => exact h _ hmem d hdatum

theorem answers_table {entries : List (String × Datum)} (h : ∀ entry ∈ entries, Answers given entry.2) :
    Answers given (.table entries) := by
  intro d hd
  cases hd with
  | entry hmem hdatum => exact h _ hmem d hdatum

theorem answers_record {fields : List (String × Datum)} (h : ∀ field ∈ fields, Answers given field.2) :
    Answers given (.record fields) := by
  intro d hd
  cases hd with
  | field hmem hdatum => exact h _ hmem d hdatum

theorem Plain.accounted {α : Type} {r : Reading α} {f : α → Datum} (h : Plain r)
    (hf : ∀ value d, ¬ (f value).Holds d) : Accounted given (r.map f) :=
  h.bind fun value _ d hd => (hf value d hd).elim

theorem readDuration_ok {x : Binary64} {datum : Datum} (h : readDuration x = .ok datum) :
    ∃ d, datum = .duration d := by
  simp only [readDuration] at h
  split at h
  · exact absurd h (by simp)
  · split at h
    · exact ⟨_, (Except.ok.inj h).symm⟩
    · exact absurd h (by simp)

/-- A number of seconds that is read as a duration. -/
theorem accounted_readDuration {x : Binary64} (hx : given x) : Accounted given (readDuration x) := by
  cases hread : readDuration x with
  | ok datum =>
    intro d hd
    obtain ⟨d', rfl⟩ := readDuration_ok hread
    cases hd
    exact ⟨x, hx, hread⟩
  | error complaint =>
    rintro cause rfl
    exact ⟨x, hx, hread⟩

end Accounted

/-- The schema of the field with a name. -/
def Fields.schema? : Fields → String → Option Schema
  | .none, _ => Option.none
  | .field name _ schema rest, key => if key = name then some schema else rest.schema? key

namespace Yaml

/-! ## 3. Readings without durations -/

theorem Node.complaint_ne_overflow (wanted : String) (node : Node) (cause : Duration.Overflow) :
    node.complaint wanted ≠ .overflow cause := by
  cases node with
  | scalar tag value style =>
    rw [Node.complaint]
    split <;> simp [Complaint.wrongType, Complaint.here]
  | _ => simp [Node.complaint, Complaint.wrongType, Complaint.here]

theorem plain_complaint {α : Type} (wanted : String) (node : Node) :
    Plain (.error (node.complaint wanted) : Reading α) :=
  fun cause hcause => node.complaint_ne_overflow wanted cause hcause

theorem plain_readText (wanted : String) (node : Node) : Plain (readText wanted node) := by
  cases node with
  | scalar tag value style => trivial
  | _ => exact plain_complaint wanted _

theorem plain_readStrictText (node : Node) : Plain (readStrictText node) := by
  cases node with
  | scalar tag value style =>
    rw [readStrictText]
    split
    · trivial
    · exact plain_complaint _ _
  | _ => exact plain_complaint _ _

theorem plain_readNatural (bound : Nat) (node : Node) : Plain (readNatural bound node) := by
  cases node with
  | scalar tag value style =>
    rw [readNatural]
    split
    · split
      · trivial
      · intro cause hcause
        exact absurd hcause (by simp [Complaint.outOfRange, Complaint.here])
    · exact plain_complaint _ _
  | _ => exact plain_complaint _ _

theorem plain_readFlag (node : Node) : Plain (readFlag node) := by
  simp only [readFlag]
  split
  · trivial
  · exact plain_complaint _ _

theorem plain_readNumber (node : Node) : Plain (readNumber node) := by
  simp only [readNumber]
  split
  · trivial
  · exact plain_complaint _ _

theorem plain_readAbsence (node : Node) : Plain (readAbsence node) := by
  rw [readAbsence.eq_def]
  split
  · split
    · trivial
    · split
      · trivial
      · split
        · trivial
        · intro cause hcause
          exact absurd hcause (by simp)
  · trivial
  · intro cause hcause
    exact absurd hcause (by simp)
  · trivial

theorem plain_readTagged (words : List String) (tag : String) (node : Node) :
    Plain (readTagged words tag node) := by
  simp only [readTagged]
  split
  · intro cause hcause
    exact absurd hcause (by simp)
  · split
    · split
      · trivial
      · intro cause hcause
        exact absurd hcause (by simp [Complaint.wrongType, Complaint.here])
    · exact plain_complaint _ _

theorem plain_readWord (words : List String) (node : Node) : Plain (readWord words node) := by
  rw [readWord.eq_def]
  split
  · rw [Teardown.readWord]
    split
    · trivial
    · intro cause hcause
      exact absurd hcause (by simp [Complaint.unknownWord, Complaint.here])
  · exact plain_readTagged _ _ _
  · exact plain_readTagged _ _ _
  · exact plain_readTagged _ _ _
  · exact plain_complaint _ _

theorem readWord_text {words : List String} {node : Node} {datum : Datum}
    (h : readWord words node = .ok datum) : ∃ text, datum = .text text := by
  have htagged : ∀ tag node, readTagged words tag node = .ok datum → ∃ text, datum = .text text := by
    intro tag node h
    simp only [readTagged] at h
    split at h
    · exact absurd h (by simp)
    · split at h
      · split at h
        · exact ⟨_, (Except.ok.inj h).symm⟩
        · exact absurd h (by simp)
      · exact absurd h (by simp)
  rw [readWord.eq_def] at h
  split at h
  · rw [Teardown.readWord] at h
    split at h
    · exact ⟨_, (Except.ok.inj h).symm⟩
    · exact absurd h (by simp)
  · exact htagged _ _ h
  · exact htagged _ _ h
  · exact htagged _ _ h
  · exact absurd h (by simp)

/-! ## 4. Parts of readings -/

section Parts

variable {α : Type} {good : α → Prop} {bad : Duration.Overflow → Prop}

theorem ends_within (step : Step) {r : Reading α} (h : Ends good bad r) :
    Ends good bad (within step r) := by
  cases r with
  | ok value => exact h
  | error complaint =>
    intro cause hcause
    cases complaint with
    | overflow cause' => exact h cause hcause
    | _ => exact absurd hcause (by simp [Complaint.inside, Complaint.here])

theorem ends_closed {isWhole : Bool} {value : α} (h : good value) :
    Ends good bad (closed isWhole value) := by
  cases isWhole with
  | true => exact h
  | false =>
    intro cause hcause
    exact absurd hcause (by simp)

theorem accounted_closeRecord {given : Binary64 → Prop} (fields : Fields)
    {present : List (String × Datum)} (h : ∀ field ∈ present, Answers given field.2) :
    Accounted given (closeRecord fields present) := by
  rw [closeRecord]
  split
  · intro cause hcause
    exact absurd hcause (by simp [Complaint.missingField, Complaint.here])
  · exact answers_record h

end Parts

/-! ## 5. Reading by a schema -/

/-- `Gives t schema node x`: the node, read by the schema, gives the number `x` where a duration is
wanted. -/
inductive Gives (t : Tree) : Schema → Node → Binary64 → Prop
  | here {node : Node} {x : Binary64} : readNumber (t.resolve node) = .ok x → Gives t .duration node x
  | optional {item : Schema} {node : Node} {x : Binary64} :
      Gives t item node x → Gives t (.optional item) node x
  | item {item : Schema} {node value : Node} {x : Binary64} {tag : Option String}
      {items : List Node} {isWhole : Bool} : t.resolve node = .sequence tag items isWhole →
      value ∈ items → Gives t item value x → Gives t (.list item) node x
  | entry {item : Schema} {node key value : Node} {x : Binary64} {tag : Option String}
      {entries : List (Node × Node)} {isWhole : Bool} :
      t.resolve node = .mapping tag entries isWhole → (key, value) ∈ entries →
      Gives t item value x → Gives t (.table item) node x
  | field {record name : String} {fields : Fields} {schema : Schema} {node key value : Node}
      {x : Binary64} {tag : Option String} {entries : List (Node × Node)} {isWhole : Bool} :
      t.resolve node = .mapping tag entries isWhole → (key, value) ∈ entries →
      readText "field identifier" (t.resolve key) = .ok name → fields.schema? name = some schema →
      Gives t schema value x → Gives t (.record record fields) node x

/-- The fields of a record that are read one after the other. -/
theorem accounted_record {t : Tree} {record : String} {fields : Fields} {node : Node}
    {tag : Option String} {entries : List (Node × Node)} {isWhole : Bool}
    (hnode : t.resolve node = .mapping tag entries isWhole)
    (hfields : ∀ key value reading, readField t fields key value = some reading →
      ∃ schema, fields.schema? key = some schema ∧ Accounted (Gives t schema value) reading) :
    Accounted (Gives t (.record record fields) node) (readNode t (.record record fields) node) := by
  rw [readNode]
  simp only [hnode]
  refine Ends.bind (Ends.foldlM (by simp) fun present entry hentry hpresent => ?_ :
    Ends (fun present => ∀ field ∈ present, Answers (Gives t (.record record fields) node) field.2)
      (Stops (Gives t (.record record fields) node)) _) fun present hpresent =>
    (ends_closed hpresent).bind fun _ hwhole => accounted_closeRecord fields hwhole
  refine (plain_readText _ _).bind fun key hkey => ?_
  split
  · intro cause hcause
    exact absurd hcause (by simp [Complaint.duplicateField, Complaint.here])
  split
  case h_1 reading hreading =>
    obtain ⟨schema, hschema, hread⟩ := hfields key entry.2 reading hreading
    have hgiven : ∀ x, Gives t schema entry.2 x → Gives t (.record record fields) node x :=
      fun x hx => .field hnode hentry hkey hschema hx
    refine (ends_within _ (hread.mono hgiven)).map fun datum hdatum field hmem => ?_
    rcases List.mem_append.1 hmem with hmem | hmem
    · exact hpresent field hmem
    · rw [List.mem_singleton.1 hmem]
      exact hdatum
  case h_2 => exact ends_closed hpresent

mutual

/-- **Where durations come from.**  All durations that are read of a node come from numbers that the node
gives, and only such a number can have none. -/
theorem accounted_readNode (t : Tree) : ∀ (schema : Schema) (node : Node),
    Accounted (Gives t schema node) (readNode t schema node)
  | .text, node => by
    rw [readNode]
    exact (plain_readText _ _).accounted fun _ _ h => nomatch h
  | .strictText, node => by
    rw [readNode]
    exact (plain_readStrictText _).accounted fun _ _ h => nomatch h
  | .natural bound, node => by
    rw [readNode]
    exact (plain_readNatural _ _).accounted fun _ _ h => nomatch h
  | .flag, node => by
    rw [readNode]
    exact (plain_readFlag _).accounted fun _ _ h => nomatch h
  | .number, node => by
    rw [readNode]
    exact (plain_readNumber _).accounted fun _ _ h => nomatch h
  | .duration, node => by
    rw [readNode]
    exact (plain_readNumber _).bind fun x hx => accounted_readDuration (.here hx)
  | .word words, node => by
    rw [readNode]
    refine (plain_readWord _ _).ends fun datum hdatum d hd => ?_
    obtain ⟨text, rfl⟩ := readWord_text hdatum
    exact nomatch hd
  | .optional item, node => by
    rw [readNode]
    refine (plain_readAbsence _).bind fun isAbsent _ => ?_
    cases isAbsent with
    | true => exact fun d hd => nomatch hd
    | false => exact (accounted_readNode t item node).mono fun _ => .optional
  | .list item, node => by
    rw [readNode]
    split
    case h_1 tag items isWhole hnode =>
      have hitem : ∀ entry ∈ items.zipIdx, Accounted (Gives t (.list item) node)
          (within (.item entry.2) (readNode t item entry.1)) := by
        intro entry hentry
        refine ends_within _ ((accounted_readNode t item entry.1).mono fun x hx => ?_)
        exact .item hnode (List.fst_mem_of_mem_zipIdx hentry) hx
      exact (Ends.mapM hitem).bind fun data hdata => ends_closed (answers_list hdata)
    case h_2 =>
      split
      · exact answers_list (by simp)
      · exact (plain_complaint _ _).ends fun _ h => nomatch h
  | .table item, node => by
    rw [readNode]
    split
    case h_1 tag entries isWhole hnode =>
      refine Ends.bind (Ends.mapM fun entry hentry => ?_ :
        Ends (fun data : List (String × Datum) => ∀ entry ∈ data,
          Answers (Gives t (.table item) node) entry.2) (Stops (Gives t (.table item) node)) _)
        fun data hdata => ends_closed (answers_table hdata)
      refine (plain_readText _ _).bind fun key _ => ?_
      have hvalue := (accounted_readNode t item entry.2).mono fun x hx =>
        Gives.entry hnode hentry hx
      exact (ends_within _ hvalue).bind fun datum hdatum => hdatum
    case h_2 =>
      split
      · exact answers_table (by simp)
      · exact (plain_complaint _ _).ends fun _ h => nomatch h
  | .record name fields, node => by
    cases hnode : t.resolve node with
    | mapping tag entries isWhole =>
      exact accounted_record hnode fun key value reading h =>
        accounted_readField t fields key value reading h
    | _ =>
      rw [readNode]
      simp only [hnode]
      split
      · exact accounted_closeRecord fields (by simp)
      · exact (plain_complaint _ _).ends fun _ h => nomatch h

theorem accounted_readField (t : Tree) : ∀ (fields : Fields) (key : String) (value : Node)
    (reading : Reading Datum), readField t fields key value = some reading →
    ∃ schema, fields.schema? key = some schema ∧ Accounted (Gives t schema value) reading
  | .none, key, value, reading, h => by
    rw [readField] at h
    exact nomatch h
  | .field name required schema rest, key, value, reading, h => by
    rw [readField] at h
    rw [Fields.schema?]
    split at h
    case isTrue hname =>
      rw [if_pos hname]
      obtain rfl := Option.some.inj h
      exact ⟨schema, rfl, accounted_readNode t schema value⟩
    case isFalse hname =>
      rw [if_neg hname]
      exact accounted_readField t rest key value reading h

end

end Yaml

end Teardown
