import SoftClock.Json.Records
import SoftClock.Proofs.Duration.RoundTrip
import SoftClock.Proofs.Json.RoundTrip

/-!
# Domain Values Survive Their JSON Text

What is stored is read back from its compact text, and for records the order of the fields does not
matter, nor what else the object holds.

* `Rearranged` objects have the fields of another in any order, with fields of other names among
  them. The named fields are found in them all the same (`fields?_of_rearranged`).
* `Survives` is the round trip of a type through text, and `RecordSurvives` that of a record type,
  also from rearranged objects. Through `parse?_compact` both are facts about the decoder alone
  (`survives_of_decode`, `recordSurvives_of_fields`).
* `storedValues_survive` states this for every stored type.
-/

namespace SoftClock

namespace Json

/-! ## Rearranged objects -/

/-- The fields of an object in any order, with further fields that have none of the names. -/
inductive Rearranged (names : List String) : Json → Json → Prop
  | fields {fields rearranged : List (JsonText × Json)} {others : List (String × Json)} :
    (∀ field ∈ others, field.1 ∉ names) →
    rearranged.Perm (fields ++ others.map fun field => (.text field.1, field.2)) →
    Rearranged names (.object fields) (.object rearranged)

/-- An object is a rearrangement of itself. -/
theorem rearranged_self (names : List String) (fields : List (String × Json)) :
    Rearranged names (.record fields) (.record fields) :=
  .fields (List.forall_mem_nil _) (by simp)

variable {names : List String} {fields others : List (String × Json)}

/-- A field of another name has no part in the values of a name. -/
theorem fieldValues_others {name : String} (hmem : name ∈ names)
    (hothers : ∀ field ∈ others, field.1 ∉ names) :
    fieldValues (others.map fun field => (.text field.1, field.2)) name = [] := by
  rw [fieldValues, List.map_eq_nil_iff, List.filter_eq_nil_iff]
  intro field hfield
  obtain ⟨other, hother, rfl⟩ := List.mem_map.mp hfield
  have hne : other.1 ≠ name := fun h => hothers other hother (h ▸ hmem)
  simp [hne]

/-- The first field counts if it has the name. -/
theorem fieldValues_cons (key : JsonText) (value : Json) (rest : List (JsonText × Json))
    (name : String) :
    fieldValues ((key, value) :: rest) name =
      if key = .text name then value :: fieldValues rest name else fieldValues rest name := by
  by_cases hkey : key = .text name <;> simp [fieldValues, hkey]

/-- Where no name is repeated, the values of a name are the one that a look-up finds, if any. -/
theorem fieldValues_record (hnodup : (fields.map Prod.fst).Nodup) (name : String) :
    fieldValues (fields.map fun field => (.text field.1, field.2)) name =
      (fields.lookup name).toList := by
  induction fields with
  | nil => rfl
  | cons field fields ih =>
    obtain ⟨key, value⟩ := field
    rw [List.map_cons, List.nodup_cons] at hnodup
    rw [List.map_cons, fieldValues_cons, ih hnodup.2, List.lookup_cons]
    by_cases hkey : key = name
    · subst hkey
      have hnone : fields.lookup key = none := by
        rw [List.lookup_eq_none_iff]
        intro other hother
        have hne : key ≠ other.1 := fun h => hnodup.1 (List.mem_map.mpr ⟨other, hother, h.symm⟩)
        simp [hne]
      simp [hnone]
    · have hbeq : (name == key) = false := by simp [Ne.symm hkey]
      simp [hbeq, hkey]

/-- The values of a name stay the same when the object is rearranged. -/
theorem fieldValues_rearranged {name : String} {rearranged : List (JsonText × Json)}
    (hnodup : (fields.map Prod.fst).Nodup) (hmem : name ∈ names)
    (hothers : ∀ field ∈ others, field.1 ∉ names)
    (hperm : rearranged.Perm ((fields.map fun field => (.text field.1, field.2)) ++
      others.map fun field => (.text field.1, field.2))) :
    fieldValues rearranged name = (fields.lookup name).toList := by
  have hvalues : (fieldValues rearranged name).Perm (fields.lookup name).toList := by
    have happend := (hperm.filter fun field => field.1 = .text name).map (·.2)
    rw [List.filter_append, List.map_append] at happend
    have hown := fieldValues_record hnodup name
    have hother := fieldValues_others hmem hothers
    rw [fieldValues] at hown hother ⊢
    rwa [hown, hother, List.append_nil] at happend
  -- At most one value is left, so its place does not matter.
  cases hlookup : fields.lookup name with
  | none => simpa [hlookup] using hvalues
  | some value => simpa [hlookup] using hvalues

/-- The named fields of a rearranged object are those that look-ups find in the object itself. -/
theorem fields?_of_rearranged {stored : Json} (hnodup : (fields.map Prod.fst).Nodup)
    (h : Rearranged names (.record fields) stored) (mayEnd : Bool) :
    stored.fields? names mayEnd = some (names.map fun name => fields.lookup name) := by
  rw [record] at h
  cases h with
  | @fields _ rearranged others hothers hperm =>
    have hvalues : ∀ name ∈ names, fieldValues rearranged name = (fields.lookup name).toList :=
      fun name hmem => fieldValues_rearranged hnodup hmem hothers hperm
    -- every field is one of the record or one of the others, and all of these have names
    have hpaired : rearranged.all (fun field => field.1 ≠ .unpaired) := by
      rw [List.all_eq_true]
      intro field hfield
      have hmem := hperm.mem_iff.mp hfield
      rw [← List.map_append] at hmem
      obtain ⟨_, _, rfl⟩ := List.mem_map.mp hmem
      simp
    -- no named field is there twice
    have hone : names.all (fun name => (fieldValues rearranged name).length ≤ 1) := by
      rw [List.all_eq_true]
      intro name hmem
      rw [hvalues name hmem]
      cases fields.lookup name <;> simp
    rw [fields?, if_pos ⟨hpaired, hone⟩, Option.some_inj]
    refine List.map_congr_left fun name hmem => ?_
    rw [hvalues name hmem]
    cases fields.lookup name <;> rfl

/-! ## Round trips -/

/-- Every value is decoded from the text it is stored as. -/
def Survives {α : Type} (encode : α → Json) (decode? : Json → Option α) : Prop :=
  ∀ value, (parse? (encode value).compact).bind decode? = some value

/-- Every value is decoded from the text it is stored as, also when the fields with these names
have been put in another order and fields of other names have been added. -/
structure RecordSurvives {α : Type} (names : List String) (encode : α → Json)
    (decode? : Json → Option α) : Prop where
  /-- The value is decoded from its own text. -/
  own : Survives encode decode?
  /-- The value is decoded from the compact text of every rearranged object. -/
  rearranged : ∀ value stored, Rearranged names (encode value) stored →
    (parse? stored.compact).bind decode? = some value
  /-- The value is decoded from every other text of a rearranged object. -/
  spelled : ∀ value stored text, Rearranged names (encode value) stored →
    parse? text = some stored → (parse? text).bind decode? = some value

variable {α : Type} {encode : α → Json} {decode? : Json → Option α}

/-- A type survives if its values are decoded from their stored forms. -/
theorem survives_of_decode (hdecode : ∀ value, decode? (encode value) = some value) :
    Survives encode decode? := by
  intro value
  rw [parse?_compact, Option.bind_some, hdecode]

/-- A record type survives if its fields have different names and its values are decoded from
whatever has the same named fields. -/
theorem recordSurvives_of_fields (parts : α → List (String × Json)) (mayEnd : Bool)
    (hencode : ∀ value, encode value = .record (parts value))
    (hnodup : ∀ value, ((parts value).map Prod.fst).Nodup)
    (hdecode : ∀ value (stored : Json),
      stored.fields? names mayEnd = some (names.map fun name => (parts value).lookup name) →
      decode? stored = some value) :
    RecordSurvives names encode decode? := by
  have hrearranged (value : α) (stored : Json) (h : Rearranged names (encode value) stored) :
      decode? stored = some value := by
    rw [hencode] at h
    exact hdecode value stored (fields?_of_rearranged (hnodup value) h mayEnd)
  refine ⟨survives_of_decode fun value => ?own, fun value stored h => ?rearranged,
    fun value stored text h htext => ?spelled⟩
  case own =>
    refine hrearranged value _ ?_
    rw [hencode]
    exact rearranged_self names (parts value)
  case rearranged => rw [parse?_compact, Option.bind_some, hrearranged value stored h]
  case spelled => rw [htext, Option.bind_some, hrearranged value stored h]

/-! ## Parts -/

/-- An integer in a range is read in that range. -/
theorem int?_integer {lo hi value : ℤ} (hlo : lo ≤ value) (hhi : value ≤ hi) :
    (Json.integer value).int? lo hi = some value := by
  rw [int?, if_pos ⟨hlo, hhi⟩]

/-- A signed word is read back. -/
@[simp] theorem int64?_ofInt64 (value : Int64) : (ofInt64 value).int64? = some value := by
  have hlo := value.le_toInt
  have hhi := value.toInt_lt
  rw [int64?, ofInt64, int?_integer (by omega) (by omega), Option.map_some, Int64.ofInt_toInt]

/-- An unsigned word is read back. -/
@[simp] theorem uint64?_ofUInt64 (value : UInt64) : (ofUInt64 value).uint64? = some value := by
  have hhi := value.toNat_lt
  rw [uint64?, ofUInt64, int?_integer (by omega) (by omega), Option.map_some, Int.toNat_natCast,
    UInt64.ofNat_toNat]

/-- An unsigned half word is read back. -/
@[simp] theorem uint32?_ofUInt32 (value : UInt32) : (ofUInt32 value).uint32? = some value := by
  have hhi := value.toNat_lt
  rw [uint32?, ofUInt32, int?_integer (by omega) (by omega), Option.map_some, Int.toNat_natCast,
    UInt32.ofNat_toNat]

/-- A value that may be `null` is read back if the value itself is, which must not be `null`. -/
theorem nullable?_ofOption (value : Option α) (hnull : ∀ part, encode part ≠ .null)
    (hdecode : ∀ part, decode? (encode part) = some part) :
    nullable? decode? (ofOption encode value) = some value := by
  cases value with
  | none => rfl
  | some part =>
    rw [ofOption, nullable?, hdecode, Option.map_some]
    exact hnull part

/-- A truth value is read back. -/
@[simp] theorem bool?_bool (value : Bool) : (Json.bool value).bool? = some value := rfl

/-- A field that is there is decoded. -/
@[simp] theorem orElse?_some (default : α) (value : Json) :
    orElse? decode? default (some value) = decode? value := rfl

/-- A value that is left out when missing is read back if the value itself is, which must not be
`null`. -/
theorem orElse?_map (value : Option α) (hnull : ∀ part, encode part ≠ .null)
    (hdecode : ∀ part, decode? (encode part) = some part) :
    orElse? (nullable? decode?) none (value.map encode) = some value := by
  cases value with
  | none => rfl
  | some part => exact nullable?_ofOption (some part) hnull hdecode

end Json

open Json

/-- A duration is read back from its stored form. -/
@[simp] theorem Duration.ofJson?_toJson (d : Duration) : Duration.ofJson? d.toJson = some d := by
  rw [ofJson?, toJson, ofString, text?, Option.bind_some, parse?_format]

/-- A mode is read back from its stored form. -/
@[simp] theorem ContinuousMode.ofJson?_toJson (mode : ContinuousMode) :
    ContinuousMode.ofJson? mode.toJson = some mode := by
  cases mode <;> rfl

/-- A clock is read back from its stored form. -/
@[simp] theorem ClockId.ofJson?_toJson (id : ClockId) : ClockId.ofJson? id.toJson = some id := by
  cases id <;> rfl

/-! ## Records -/

/-- Times with nanoseconds survive. -/
theorem Timespec.recordSurvives :
    RecordSurvives ["tv_sec", "tv_nsec"] Timespec.toJson Timespec.ofJson? := by
  refine recordSurvives_of_fields _ false (fun _ => rfl) (fun _ => by simp) ?_
  intro time stored hfields
  simp only [List.map_cons, List.map_nil, List.lookup_cons, String.reduceBEq] at hfields
  simp [ofJson?, hfields]

/-- Times with microseconds survive. -/
theorem Timeval.recordSurvives :
    RecordSurvives ["tv_sec", "tv_usec"] Timeval.toJson Timeval.ofJson? := by
  refine recordSurvives_of_fields _ false (fun _ => rfl) (fun _ => by simp) ?_
  intro time stored hfields
  simp only [List.map_cons, List.map_nil, List.lookup_cons, String.reduceBEq] at hfields
  simp [ofJson?, hfields]

/-- Scales survive. -/
theorem Scale.recordSurvives :
    RecordSurvives ["numer", "denom"] Scale.toJson Scale.ofJson? := by
  refine recordSurvives_of_fields _ false (fun _ => rfl) (fun _ => by simp) ?_
  intro scale stored hfields
  simp only [List.map_cons, List.map_nil, List.lookup_cons, String.reduceBEq] at hfields
  simp [ofJson?, hfields]

/-- Counters survive, with a best bracket or without. -/
theorem Counters.recordSurvives :
    RecordSurvives ["attempts", "commits", "rejections", "boot_restarts", "exhausted",
      "read_failures", "best_bracket_ticks"] Counters.toJson Counters.ofJson? := by
  refine recordSurvives_of_fields _ false (fun _ => rfl) (fun _ => by simp) ?_
  intro counters stored hfields
  simp only [List.map_cons, List.map_nil, List.lookup_cons, String.reduceBEq] at hfields
  have hbracket : nullable? uint64? (.ofOption .ofUInt64 counters.bestBracket) =
      some counters.bestBracket :=
    nullable?_ofOption _ (fun bracket => by simp [ofUInt64]) uint64?_ofUInt64
  simp [ofJson?, hfields, hbracket]

/-- Settings survive, with an interval or without. -/
theorem Settings.recordSurvives :
    RecordSurvives Settings.keys Settings.toJson Settings.ofJson? := by
  refine recordSurvives_of_fields _ true (fun _ => rfl) (fun settings => ?_) ?_
  · cases settings.recalibrateInterval <;> simp
  intro settings stored hfields
  have hvalues : stored.fields? keys true =
      some [some (.ofUInt32 settings.samplesPerAttempt), some (.ofUInt32 settings.maxBootRestarts),
        some (.ofUInt32 settings.maxWallPolls), some settings.minOffsetAdvance.toJson,
        some (.ofUInt32 settings.maxDriftPpm), some settings.continuousMode.toJson,
        some (.bool settings.eagerInit), settings.recalibrateInterval.map Duration.toJson] := by
    rw [hfields]
    cases settings.recalibrateInterval <;> rfl
  have hinterval : orElse? (nullable? Duration.ofJson?) none
      (settings.recalibrateInterval.map Duration.toJson) = some settings.recalibrateInterval :=
    orElse?_map _ (fun d => by simp [Duration.toJson, ofString]) Duration.ofJson?_toJson
  simp [ofJson?, hvalues, hinterval]

/-! ## The stored types -/

/-- Every value is read back from the compact text of its stored form, and every record also from
an object with its fields in any order and any other fields among them. -/
theorem storedValues_survive :
    Survives ClockId.toJson ClockId.ofJson? ∧
    Survives ContinuousMode.toJson ContinuousMode.ofJson? ∧
    RecordSurvives ["tv_sec", "tv_nsec"] Timespec.toJson Timespec.ofJson? ∧
    RecordSurvives ["tv_sec", "tv_usec"] Timeval.toJson Timeval.ofJson? ∧
    RecordSurvives ["numer", "denom"] Scale.toJson Scale.ofJson? ∧
    RecordSurvives ["attempts", "commits", "rejections", "boot_restarts", "exhausted",
      "read_failures", "best_bracket_ticks"] Counters.toJson Counters.ofJson? ∧
    RecordSurvives Settings.keys Settings.toJson Settings.ofJson? :=
  ⟨survives_of_decode ClockId.ofJson?_toJson, survives_of_decode ContinuousMode.ofJson?_toJson,
    Timespec.recordSurvives, Timeval.recordSurvives, Scale.recordSurvives,
    Counters.recordSurvives, Settings.recordSurvives⟩

/-- A scale stored with its fields the other way round, after a field of another name. -/
def shuffledScale : Json :=
  .record [("note", .array [.null, .decimal 5 (-1)]), ("denom", .integer 3),
    ("numer", .integer 125)]

/-- The shuffled scale is a rearrangement of the scale `125/3`, and is read as that scale. -/
theorem shuffledScale_survives :
    Rearranged ["numer", "denom"] (Scale.toJson ⟨125, 3⟩) shuffledScale ∧
      shuffledScale.compact = "\x7b\"note\":[null,5e-1],\"denom\":3,\"numer\":125\x7d" ∧
      (parse? "\x7b\"note\":[null,5e-1],\"denom\":3,\"numer\":125\x7d").bind Scale.ofJson? =
        some ⟨125, 3⟩ := by
  have hrearranged : Rearranged ["numer", "denom"] (Scale.toJson ⟨125, 3⟩) shuffledScale := by
    have hother : ∀ field ∈ [("note", Json.array [.null, .decimal 5 (-1)])],
        field.1 ∉ ["numer", "denom"] := by
      simp
    exact .fields hother (List.reverse_perm _).symm
  have hcompact : shuffledScale.compact =
      "\x7b\"note\":[null,5e-1],\"denom\":3,\"numer\":125\x7d" := by decide +kernel
  have hread := storedValues_survive.2.2.2.2.1.rearranged ⟨125, 3⟩ shuffledScale hrearranged
  rw [hcompact] at hread
  exact ⟨hrearranged, hcompact, hread⟩

end SoftClock
