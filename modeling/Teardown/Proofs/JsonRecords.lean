/-
# Objects that are read as records

An object has members with names, in some order, and a record has fields.  If each name of the
object comes once, the order says nothing: a field is what the member of its name is read as, and
it is missing if there is no such member (`Json.said`).

Main fact: `Json.read_record`.  The object is read as a record if its members can be read, each by
the schema of its field, and no required field is missing.  The step is what one member adds to
those before it (`Json.addMember`); the rest is an induction on the members.

The induction needs more than the theorem says.  The fields before the first member are not none
but any, as long as they and the members have no name in common; and of each field it is said
where it comes from, from those before or from a member (`foldlM_addMember`).

* §1  names that come once, in lists of entries.
* §2  what the members of an object say of a field.
* §3  one member, and then all of them.
-/
import Mathlib.Data.List.Nodup
import Teardown.Json.Shape
import Teardown.Proofs.GivenDurations

namespace Teardown

/-! ## 1. Names that come once -/

section Entries

variable {α : Type} {entries entries' : List (String × α)} {name : String}

/-- Where no name comes twice, what is found under a name is what is there. -/
theorem lookup_eq_some_iff_mem (h : (entries.map Prod.fst).Nodup) {value : α} :
    entries.lookup name = some value ↔ (name, value) ∈ entries := by
  induction entries with
  | nil => simp
  | cons entry entries ih =>
    obtain ⟨other, old⟩ := entry
    obtain ⟨hnew, hrest⟩ := List.nodup_cons.1 h
    rw [List.lookup_cons, List.mem_cons]
    by_cases hname : name = other
    · subst hname
      have hgone : (name, value) ∉ entries := fun hmem => hnew (List.mem_map.2 ⟨_, hmem, rfl⟩)
      simp [hgone, eq_comm]
    · have hbeq : (name == other) = false := beq_false_of_ne hname
      simp [hname, hbeq, ih hrest]

/-- The order of entries does not matter where no name comes twice. -/
theorem lookup_perm (h : entries.Perm entries') (hnames : (entries'.map Prod.fst).Nodup)
    (name : String) : entries.lookup name = entries'.lookup name := by
  have hnames' : (entries.map Prod.fst).Nodup := (h.map Prod.fst).nodup_iff.2 hnames
  refine Option.ext fun value => ?_
  rw [lookup_eq_some_iff_mem hnames, lookup_eq_some_iff_mem hnames', h.mem_iff]

end Entries

/-! ## 2. Fields -/

theorem Fields.exists_schema?_of_required : ∀ {fields : Fields} {name : String},
    name ∈ fields.required → ∃ schema, fields.schema? name = some schema
  | .none, _, h => absurd h List.not_mem_nil
  | .field other required schema rest, name, h => by
    rw [Fields.schema?]
    by_cases hname : name = other
    · exact ⟨schema, if_pos hname⟩
    · rw [if_neg hname]
      cases required with
      | true => exact exists_schema?_of_required ((List.mem_cons.1 h).resolve_left hname)
      | false => exact exists_schema?_of_required h

namespace Json

variable {fields : Fields} {members : List (String × Json)}

/-- The value of a member is read by the schema of the field. -/
theorem readMember_eq : ∀ (fields : Fields) (name : String) (value : Json),
    readMember fields name value = (fields.schema? name).map fun schema => read schema value
  | .none, _, _ => by rw [readMember, Fields.schema?, Option.map_none]
  | .field name _ schema rest, other, value => by
    rw [readMember, Fields.schema?, readMember_eq rest]
    split <;> rfl

/-- What the members say of a field: what the member of its name is read as. -/
def said (fields : Fields) (members : List (String × Json)) (name : String) : Option Datum :=
  (fields.schema? name).bind fun schema =>
    (members.lookup name).bind fun value => (read schema value).toOption

theorem said_of_lookup {name : String} {schema : Schema} {value : Json} {datum : Datum}
    (hschema : fields.schema? name = some schema) (hmember : members.lookup name = some value)
    (hread : read schema value = .ok datum) : said fields members name = some datum := by
  rw [said, hschema, hmember]
  simp [hread, Except.toOption]

theorem said_cons_of_ne {name key : String} (h : name ≠ key) (value : Json) :
    said fields ((key, value) :: members) name = said fields members name := by
  have hbeq : (name == key) = false := beq_false_of_ne h
  simp [said, List.lookup_cons, hbeq]

/-- Every member that has the name of a field can be read. -/
def Readable (fields : Fields) (members : List (String × Json)) : Prop :=
  ∀ member ∈ members, ∀ schema, fields.schema? member.1 = some schema →
    ∃ datum, read schema member.2 = .ok datum

/-! ## 3. Members one after the other -/

/-- The fields with that of one more member. -/
def addMember (fields : Fields) (present : List (String × Datum)) (member : String × Json) :
    Reading (List (String × Datum)) :=
  if (present.lookup member.1).isSome then .error (.duplicateField member.1)
  else
    match readMember fields member.1 member.2 with
    | some reading => reading.map fun datum => present ++ [(member.1, datum)]
    | none => .ok present

section AddMember

variable {present : List (String × Datum)} {key : String} {value : Json}

theorem addMember_of_unknown (hnew : present.lookup key = none) (hschema : fields.schema? key = none) :
    addMember fields present (key, value) = .ok present := by
  simp [addMember, hnew, readMember_eq, hschema]

theorem addMember_of_read {schema : Schema} {datum : Datum} (hnew : present.lookup key = none)
    (hschema : fields.schema? key = some schema) (hread : read schema value = .ok datum) :
    addMember fields present (key, value) = .ok (present ++ [(key, datum)]) := by
  simp [addMember, hnew, readMember_eq, hschema, hread, Except.map]

end AddMember

/-- **A run of members** with names of their own: it can be read, and a field is there if it was there before
or a member says what it is. -/
theorem foldlM_addMember (hnames : (members.map Prod.fst).Nodup) (hreadable : Readable fields members)
    (present : List (String × Datum)) (hnew : ∀ member ∈ members, present.lookup member.1 = none) :
    ∃ present', members.foldlM (addMember fields) present = .ok present' ∧
      ∀ name, present'.lookup name = (present.lookup name).or (said fields members name) := by
  induction members generalizing present with
  | nil => exact ⟨present, rfl, fun name => by simp [said]⟩
  | cons member members ih =>
    obtain ⟨key, value⟩ := member
    obtain ⟨hkey, hrest⟩ := List.nodup_cons.1 hnames
    obtain ⟨hkeyNew, hnewRest⟩ := List.forall_mem_cons.1 hnew
    have hmore : Readable fields members := fun member hmember => hreadable member (.tail _ hmember)
    cases hschema : fields.schema? key with
    | none =>
      obtain ⟨present', hfold, hlookup⟩ := ih hrest hmore present hnewRest
      refine ⟨present', ?_, fun name => ?_⟩
      · rw [List.foldlM_cons, addMember_of_unknown hkeyNew hschema]
        exact hfold
      · rw [hlookup]
        by_cases hname : name = key
        · subst hname
          simp [said, hschema]
        · rw [said_cons_of_ne hname]
    | some schema =>
      obtain ⟨datum, hdatum⟩ := hreadable (key, value) List.mem_cons_self schema hschema
      have hfresh : ∀ member ∈ members, (present ++ [(key, datum)]).lookup member.1 = none := by
        intro member hmember
        have hother : member.1 ≠ key := fun h => hkey (List.mem_map.2 ⟨member, hmember, h⟩)
        simp [List.lookup_append, hnewRest member hmember, hother]
      obtain ⟨present', hfold, hlookup⟩ := ih hrest hmore _ hfresh
      refine ⟨present', ?_, fun name => ?_⟩
      · rw [List.foldlM_cons, addMember_of_read hkeyNew hschema hdatum]
        exact hfold
      · rw [hlookup, List.lookup_append]
        by_cases hname : name = key
        · subst hname
          rw [hkeyNew, said_of_lookup hschema List.lookup_cons_self hdatum]
          simp
        · have hbeq : (name == key) = false := beq_false_of_ne hname
          rw [said_cons_of_ne hname]
          simp [List.lookup_cons, hbeq]

/-- **An object is read as a record** if each of its names comes once, its members can be read and no
required field is missing; and then each field is what the member of its name says. -/
theorem read_record (record : String) (hnames : (members.map Prod.fst).Nodup)
    (hreadable : Readable fields members)
    (hrequired : ∀ name ∈ fields.required, name ∈ members.map Prod.fst) :
    ∃ datum, read (.record record fields) (.object members) = .ok datum ∧
      ∀ name, datum.field? name = said fields members name := by
  obtain ⟨present, hfold, hlookup⟩ := foldlM_addMember hnames hreadable [] (by simp)
  have hpresent : ∀ name ∈ fields.required, ¬ (present.lookup name).isNone = true := by
    intro name hname
    obtain ⟨schema, hschema⟩ := Fields.exists_schema?_of_required hname
    obtain ⟨⟨key, value⟩, hmember, rfl⟩ := List.mem_map.1 (hrequired name hname)
    obtain ⟨datum, hdatum⟩ := hreadable _ hmember schema hschema
    have hsaid : said fields members key = some datum :=
      said_of_lookup hschema ((lookup_eq_some_iff_mem hnames).2 hmember) hdatum
    rw [hlookup, hsaid]
    simp
  have hread : read (.record record fields) (.object members) =
      members.foldlM (addMember fields) [] >>= closeRecord fields := by
    rw [read]
    rfl
  refine ⟨.record present, ?_, hlookup⟩
  rw [hread, hfold]
  change closeRecord fields present = _
  rw [closeRecord, List.find?_eq_none.2 hpresent]

end Json

end Teardown
