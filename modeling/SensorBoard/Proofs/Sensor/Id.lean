import SensorBoard.Proofs.Keyed
import SensorBoard.Sensor.Rule

/-!
# Parts of sensor names

A name is cut at its first dot, and what follows that dot is cut once more; so the type token lies
between the first two dots, and a name has one exactly if something lies there
(`typeToken?_eq_some_iff`). The device part is what lies in front of them and the instance is
everything behind them, whether there is a token or not (`parts_at_first_dots`).

Whatever is put behind a name and is empty or begins with a dot leaves the token as it is
(`typeToken?_append`). With such suffixes the resource of a sensor has a rule exactly as the sensor
has, so no two sensors have one resource (`eq_of_resourceFor_eq`).
-/

namespace SensorBoard

namespace SensorId

/-- Is the text empty, or does it begin with a dot? Then it makes no part in front of it longer. -/
def isTail (cs : List Char) : Bool := cs.head?.all (· == '.')

/-! ## The first cut -/

theorem cut_append {part : List Char} (h : '.' ∉ part) (rest : List Char) :
    cut (part ++ '.' :: rest) = (part, some rest) := by
  induction part with
  | nil => rw [List.nil_append, cut, if_pos rfl]
  | cons c cs ih =>
    obtain ⟨hne, hcs⟩ := List.ne_and_not_mem_of_not_mem_cons h
    rw [List.cons_append, cut, if_neg hne.symm, ih hcs]

theorem cut_of_notMem {part : List Char} (h : '.' ∉ part) : cut part = (part, none) := by
  induction part with
  | nil => rfl
  | cons c cs ih =>
    obtain ⟨hne, hcs⟩ := List.ne_and_not_mem_of_not_mem_cons h
    rw [cut, if_neg hne.symm, ih hcs]

/-- A part without a dot is cut off from a tail, which loses its dot. -/
theorem cut_append_tail {part tail : List Char} (hpart : '.' ∉ part) (htail : isTail tail = true) :
    cut (part ++ tail) = (part, tail.tail?) := by
  cases tail with
  | nil => rw [List.append_nil, cut_of_notMem hpart, List.tail?_nil]
  | cons c rest =>
    have hc : c = '.' := by simpa [isTail] using htail
    rw [hc, cut_append hpart, List.tail?_cons]

/-- The part in front is what has no dot and is followed by a dot or by nothing. -/
theorem cut_fst_eq_iff {cs part : List Char} :
    (cut cs).1 = part ↔ '.' ∉ part ∧ ∃ tail, cs = part ++ tail ∧ isTail tail = true := by
  constructor
  · rintro rfl
    by_cases hdot : '.' ∈ cs
    · obtain ⟨part, rest, rfl, hpart⟩ := List.eq_append_cons_of_mem hdot
      rw [cut_append hpart]
      exact ⟨hpart, '.' :: rest, rfl, rfl⟩
    · rw [cut_of_notMem hdot]
      exact ⟨hdot, [], (List.append_nil cs).symm, rfl⟩
  · rintro ⟨hpart, tail, rfl, htail⟩
    rw [cut_append_tail hpart htail]

/-- The part in front ends with the first dot. -/
theorem cut_fst (cs : List Char) : (cut cs).1 = cs.takeWhile (· != '.') := by
  induction cs with
  | nil => rfl
  | cons c cs ih =>
    by_cases hc : c = '.'
    · rw [cut, if_pos hc, List.takeWhile_cons_of_neg (by simp [hc])]
    · rw [cut, if_neg hc, List.takeWhile_cons_of_pos (by simp [hc]), ih]

/-- What follows is everything behind the first dot. -/
theorem cut_snd_eq_some_iff {cs rest : List Char} :
    (cut cs).2 = some rest ↔ ∃ part, cs = part ++ '.' :: rest ∧ '.' ∉ part := by
  constructor
  · intro h
    by_cases hdot : '.' ∈ cs
    · obtain ⟨part, behind, rfl, hpart⟩ := List.eq_append_cons_of_mem hdot
      rw [cut_append hpart] at h
      exact ⟨part, by rw [Option.some.inj h], hpart⟩
    · rw [cut_of_notMem hdot] at h
      cases h
  · rintro ⟨part, rfl, hpart⟩
    rw [cut_append hpart]

theorem isSome_cut_snd_iff {cs : List Char} : (cut cs).2.isSome = true ↔ '.' ∈ cs := by
  rw [Option.isSome_iff_exists]
  constructor
  · rintro ⟨rest, h⟩
    obtain ⟨part, rfl, _⟩ := cut_snd_eq_some_iff.mp h
    exact List.mem_append_right part (List.mem_cons_self ..)
  · intro hdot
    obtain ⟨part, rest, rfl, hpart⟩ := List.eq_append_cons_of_mem hdot
    exact ⟨rest, by rw [cut_append hpart]⟩

/-- A cut takes one dot away. -/
theorem count_of_cut_snd {cs rest : List Char} (h : (cut cs).2 = some rest) :
    cs.count '.' = rest.count '.' + 1 := by
  obtain ⟨part, rfl, hpart⟩ := cut_snd_eq_some_iff.mp h
  rw [List.count_append, List.count_eq_zero_of_not_mem hpart, Nat.zero_add, List.count_cons_self]

/-! ## The type token -/

/-- The token is a part between a dot and another one or the end of the name; the first dot of the
name is in front of it, and there is something in it. -/
theorem typeToken?_eq_some_iff {id : SensorId} {token : String} :
    id.typeToken? = some token ↔
      ∃ device tail, id.raw.toList = device ++ '.' :: (token.toList ++ tail) ∧ '.' ∉ device ∧
        '.' ∉ token.toList ∧ token ≠ "" ∧ isTail tail = true := by
  constructor
  · intro h
    rw [typeToken?] at h
    by_cases hdot : '.' ∈ id.raw.toList
    · obtain ⟨device, rest, hraw, hdevice⟩ := List.eq_append_cons_of_mem hdot
      obtain ⟨hpart, tail, hrest, htail⟩ := cut_fst_eq_iff.mp (rfl : (cut rest).1 = (cut rest).1)
      simp only [hraw, cut_append hdevice] at h
      split at h
      next => cases h
      next hne =>
        obtain rfl := Option.some.inj h
        refine ⟨device, tail, ?_, hdevice, ?_, ?_, htail⟩
        · rw [hraw, String.toList_ofList, ← hrest]
        · rwa [String.toList_ofList]
        · rwa [Ne, String.ofList_eq_empty_iff]
    · rw [cut_of_notMem hdot] at h
      cases h
  · rintro ⟨device, tail, hraw, hdevice, htoken, hne, htail⟩
    have hcut := cut_fst_eq_iff.mpr ⟨htoken, tail, rfl, htail⟩
    simp only [typeToken?, hraw, cut_append hdevice, hcut]
    rw [if_neg (by simpa using hne), String.ofList_toList]

theorem isTail_append {tail suffix : List Char} (htail : isTail tail = true)
    (hsuffix : isTail suffix = true) : isTail (tail ++ suffix) = true := by
  cases tail with
  | nil => exact hsuffix
  | cons c rest => exact htail

/-- A suffix that begins with a dot comes behind the token, wherever the name ends. -/
theorem typeToken?_append {id : SensorId} {token suffix : String} (h : id.typeToken? = some token)
    (hsuffix : isTail suffix.toList = true) :
    (SensorId.mk (id.raw ++ suffix)).typeToken? = some token := by
  obtain ⟨device, tail, hraw, hdevice, htoken, hne, htail⟩ := typeToken?_eq_some_iff.mp h
  refine typeToken?_eq_some_iff.mpr
    ⟨device, tail ++ suffix.toList, ?_, hdevice, htoken, hne, isTail_append htail hsuffix⟩
  simp [hraw]

/-! ## All parts -/

/-- The name is a device part, a dot, a token with something in it, and a rest. The first two have
no dot, and the rest is empty or begins with one. -/
structure Parts (id : SensorId) (device token rest : String) : Prop where
  raw_eq : id.raw = device ++ "." ++ token ++ rest
  dot_notMem_device : '.' ∉ device.toList
  dot_notMem_token : '.' ∉ token.toList
  token_ne_empty : token ≠ ""
  isTail_rest : isTail rest.toList = true

variable {id : SensorId} {device token rest : String}

theorem Parts.toList_raw (h : id.Parts device token rest) :
    id.raw.toList = device.toList ++ '.' :: (token.toList ++ rest.toList) := by
  simp [h.raw_eq]

theorem typeToken?_eq_some_iff_parts :
    id.typeToken? = some token ↔ ∃ device rest, id.Parts device token rest := by
  rw [typeToken?_eq_some_iff]
  constructor
  · rintro ⟨device, tail, hraw, hdevice, htoken, hne, htail⟩
    refine ⟨String.ofList device, String.ofList tail, ?_, ?_, htoken, hne, ?_⟩
    · simp [String.ext_iff, hraw]
    · rwa [String.toList_ofList]
    · rwa [String.toList_ofList]
  · rintro ⟨device, rest, h⟩
    exact ⟨device.toList, rest.toList, h.toList_raw, h.dot_notMem_device, h.dot_notMem_token,
      h.token_ne_empty, h.isTail_rest⟩

theorem Parts.typeToken? (h : id.Parts device token rest) : id.typeToken? = some token :=
  typeToken?_eq_some_iff_parts.mpr ⟨device, rest, h⟩

theorem Parts.devicePart (h : id.Parts device token rest) : id.devicePart = device := by
  rw [SensorId.devicePart, h.toList_raw, cut_append h.dot_notMem_device, String.ofList_toList]

theorem instancePart?_eq (id : SensorId) :
    id.instancePart? = ((cut id.raw.toList).2.bind fun rest => (cut rest).2).map String.ofList := by
  rw [instancePart?]
  cases (cut id.raw.toList).2 <;> rfl

/-- The instance is the rest without its dot. -/
theorem Parts.instancePart? (h : id.Parts device token rest) :
    id.instancePart? = rest.toList.tail?.map String.ofList := by
  rw [instancePart?_eq, h.toList_raw, cut_append h.dot_notMem_device, Option.bind_some,
    cut_append_tail h.dot_notMem_token h.isTail_rest]

/-- A name is put together in one way only. -/
theorem Parts.unique (h : id.Parts device token rest) {device' token' rest' : String}
    (h' : id.Parts device' token' rest') : device' = device ∧ token' = token ∧ rest' = rest := by
  have hdevice : device' = device := h'.devicePart.symm.trans h.devicePart
  have htoken : token' = token := Option.some.inj (h'.typeToken?.symm.trans h.typeToken?)
  subst hdevice htoken
  exact ⟨rfl, rfl, (String.append_right_inj _).mp (h'.raw_eq.symm.trans h.raw_eq)⟩

theorem instancePart?_eq_some_iff {behind : String} : id.instancePart? = some behind ↔
    ∃ device middle : String, id.raw = device ++ "." ++ middle ++ "." ++ behind ∧
      '.' ∉ device.toList ∧ '.' ∉ middle.toList := by
  rw [instancePart?_eq]
  constructor
  · intro h
    obtain ⟨cs, hcuts, rfl⟩ := Option.map_eq_some_iff.mp h
    obtain ⟨rest, hfirst, hsecond⟩ := Option.bind_eq_some_iff.mp hcuts
    obtain ⟨device, hraw, hdevice⟩ := cut_snd_eq_some_iff.mp hfirst
    obtain ⟨middle, rfl, hmiddle⟩ := cut_snd_eq_some_iff.mp hsecond
    refine ⟨String.ofList device, String.ofList middle, ?_, ?_, ?_⟩
    · simp [String.ext_iff, hraw]
    · rwa [String.toList_ofList]
    · rwa [String.toList_ofList]
  · rintro ⟨device, middle, hraw, hdevice, hmiddle⟩
    have hchars : id.raw.toList =
        device.toList ++ '.' :: (middle.toList ++ '.' :: behind.toList) := by simp [hraw]
    rw [hchars, cut_append hdevice, Option.bind_some, cut_append hmiddle, Option.map_some,
      String.ofList_toList]

theorem isSome_instancePart?_iff :
    id.instancePart?.isSome = true ↔ 2 ≤ id.raw.toList.count '.' := by
  rw [instancePart?_eq, Option.isSome_map]
  cases hcut : (cut id.raw.toList).2 with
  | none =>
    have hdot : '.' ∉ id.raw.toList := by
      rw [← isSome_cut_snd_iff, hcut]
      exact Bool.false_ne_true
    rw [List.count_eq_zero_of_not_mem hdot]
    simp
  | some rest =>
    rw [count_of_cut_snd hcut, Option.bind_some, isSome_cut_snd_iff, ← List.count_pos_iff]
    omega

/-- There is a type token exactly if the name is put together from parts, which it is in one way
only, and then the token is the one among them, the device part is the one in front of it, and the
instance is the rest without its dot, if there is a rest. Whether there is a token or not, the
device part is the name up to its first dot, and there is an instance exactly if the name has two
dots; it is everything behind the second one. -/
theorem parts_at_first_dots (id : SensorId) :
    (∀ token, id.typeToken? = some token ↔ ∃ device rest, id.Parts device token rest) ∧
    (∀ device token rest, id.Parts device token rest →
      (∀ device' token' rest', id.Parts device' token' rest' →
        device' = device ∧ token' = token ∧ rest' = rest) ∧
      id.devicePart = device ∧ id.instancePart? = rest.toList.tail?.map String.ofList) ∧
    id.devicePart = String.ofList (id.raw.toList.takeWhile (· != '.')) ∧
    (id.instancePart?.isSome = true ↔ 2 ≤ id.raw.toList.count '.') ∧
    ∀ behind, id.instancePart? = some behind ↔
      ∃ device middle : String, id.raw = device ++ "." ++ middle ++ "." ++ behind ∧
        '.' ∉ device.toList ∧ '.' ∉ middle.toList := by
  refine ⟨fun token => typeToken?_eq_some_iff_parts, fun device token rest h => ⟨?_, ?_, ?_⟩, ?_,
    isSome_instancePart?_iff, fun behind => instancePart?_eq_some_iff⟩
  · intro device' token' rest' h'
    exact h.unique h'
  · exact h.devicePart
  · exact h.instancePart?
  · rw [devicePart, cut_fst]

/-- The name of a resource has more than two dots, and those behind the second one do not cut it. -/
theorem parts_at_first_dots_resource :
    let id : SensorId := ⟨"dev.3304.1.5700"⟩
    id.Parts "dev" "3304" ".1.5700" ∧ id.devicePart = "dev" ∧ id.typeToken? = some "3304" ∧
      id.instancePart? = some "1.5700" ∧
      ∀ device token rest, id.Parts device token rest →
        device = "dev" ∧ token = "3304" ∧ rest = ".1.5700" := by
  intro id
  have hparts : id.Parts "dev" "3304" ".1.5700" :=
    ⟨rfl, by decide, by decide, by decide, by decide⟩
  obtain ⟨htoken, hcut, _⟩ := parts_at_first_dots id
  obtain ⟨hunique, hdevice, hinstance⟩ := hcut "dev" "3304" ".1.5700" hparts
  exact ⟨hparts, hdevice, (htoken "3304").mpr ⟨"dev", ".1.5700", hparts⟩, hinstance, hunique⟩

/-- Two dots with nothing between them leave no token; there is an instance all the same. -/
example : (SensorId.mk "dev..5700").typeToken? = none ∧
    (SensorId.mk "dev..5700").instancePart? = some "5700" := by decide

end SensorId

/-! ## Resources -/

namespace RuleTable

/-- Every suffix of the table is empty or begins with a dot. -/
def isDotted (rules : RuleTable) : Bool :=
  rules.entries.all fun e => SensorId.isTail e.2.valueSuffix.toList

variable {rules : RuleTable} {id id' : SensorId} {rule rule' : Rule}

theorem isDotted_builtin : builtin.isDotted = true := by decide +kernel

theorem lookup_eq_some_iff : rules.lookup id = some rule ↔
    ∃ token, id.typeToken? = some token ∧ Keyed.find? token rules.entries = some rule := by
  rw [lookup, Option.bind_eq_some_iff]

theorem isTail_of_lookup (hrules : rules.isDotted = true) (h : rules.lookup id = some rule) :
    SensorId.isTail rule.valueSuffix.toList = true := by
  obtain ⟨token, _, hfind⟩ := lookup_eq_some_iff.mp h
  exact List.all_eq_true.mp hrules _ (Keyed.mem_of_find? hfind)

/-- The resource of a sensor has the type of the sensor. -/
theorem typeToken?_resourceFor (hrules : rules.isDotted = true) (h : rules.lookup id = some rule) :
    (SensorId.mk (rule.resourceFor id)).typeToken? = id.typeToken? := by
  obtain ⟨token, htoken, _⟩ := lookup_eq_some_iff.mp h
  rw [htoken]
  exact SensorId.typeToken?_append htoken (isTail_of_lookup hrules h)

/-- A resource tells its sensor. -/
theorem eq_of_resourceFor_eq (hrules : rules.isDotted = true) (h : rules.lookup id = some rule)
    (h' : rules.lookup id' = some rule') (heq : rule.resourceFor id = rule'.resourceFor id') :
    id = id' := by
  -- sensors of one type have one rule, so what is put behind their names is the same
  have htoken : id.typeToken? = id'.typeToken? := by
    rw [← typeToken?_resourceFor hrules h, ← typeToken?_resourceFor hrules h', heq]
  have hrule : rule = rule' := by
    rw [lookup, htoken, ← lookup, h'] at h
    exact (Option.some.inj h).symm
  subst hrule
  have hraw : id.raw = id'.raw := (String.append_left_inj rule.valueSuffix).mp heq
  cases id
  cases id'
  exact congrArg SensorId.mk hraw

end RuleTable

end SensorBoard
