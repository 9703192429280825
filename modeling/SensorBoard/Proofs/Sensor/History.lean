import SensorBoard.Lookup.Remote
import SensorBoard.Proofs.Decimal.Reader
import SensorBoard.Proofs.Json.Order
import SensorBoard.Proofs.Text.Blank
import SensorBoard.Proofs.Text.Utf8
import SensorBoard.Sensor.History

/-!
# Decoded histories

What the entries of a history write, told without the functions that decode them: of every entry
the member with the smallest name counts, the name is a numeral between blanks, and the value is a
number or a text that reads as one. Decoding finds a point for every entry that is not empty, in
their order (`decode_eq_ok_iff`), or the fault of the first entry that writes none
(`decode_eq_error_iff`); `decode_points_or_first_fault` says both. Entries have their members in
ascending order here, as all have that come as text (`ascending_of_readAs`).
-/

namespace SensorBoard.History

open Text

/-! ## What an entry writes -/

/-- The members of the entry ascend by their names. -/
def Ascending (e : HistoryEntry) : Prop := e.Pairwise fun x y => x.1 < y.1

instance (e : HistoryEntry) : Decidable (Ascending e) :=
  inferInstanceAs (Decidable (e.Pairwise fun x y => x.1 < y.1))

/-- The member counts: its name is the smallest of the entry, byte by byte. -/
def IsFirst (e : HistoryEntry) (key : String) (value : Json) : Prop :=
  (key, value) ∈ e ∧ ∀ m ∈ e, Percent.utf8 key ≤ Percent.utf8 m.1

/-- The name is a numeral for the seconds, with blanks around it. -/
def WritesSeconds (key : String) (seconds : Int) : Prop :=
  ∃ front numeral back, key.toList = front ++ numeral ++ back ∧ AllBlank front ∧ AllBlank back ∧
    Writes numeral seconds

/-- A text with a point for every comma. -/
def withPoints (cs : List Char) : List Char := cs.map fun c => if c = ',' then '.' else c

/-- The double that a JSON number stands for. -/
inductive NumberIs : JsonNumber → Float → Prop where
  | int (i : Int) : NumberIs (.int i) (Float.ofInt i)
  | float (x : Float) : NumberIs (.float x) x

/-- The double that a value is or writes. -/
inductive WritesValue : Json → Float → Prop where
  | number {n : JsonNumber} {x : Float} (hx : NumberIs n x) : WritesValue (.number n) x
  | text {s : String} {core : List Char} {x : Float} (hcore : Trims s.toList core)
      (hx : Decimal.WritesDouble core x) : WritesValue (.text s) x
  /-- Commas are taken for points only in what is no double as it is. -/
  | commas {s : String} {core : List Char} {x : Float} (hcore : Trims s.toList core)
      (hnone : ∀ y, ¬Decimal.WritesDouble core y)
      (hx : Decimal.WritesDouble (withPoints core) x) : WritesValue (.text s) x

/-- The point that an entry stands for. -/
inductive WritesPoint (e : HistoryEntry) : HistoryPoint → Prop where
  | intro {key : String} {value : Json} {seconds : Int} {x : Float} (hfirst : IsFirst e key value)
      (hseconds : WritesSeconds key seconds) (hge : -9223372036854775 ≤ seconds)
      (hle : seconds ≤ 9223372036854775) (hvalue : WritesValue value x) :
      WritesPoint e ⟨1000 * seconds, x⟩

/-- The fault of an entry: what is wrong with its time comes before what is wrong with its value. -/
inductive Faulty (e : HistoryEntry) : HistoryFault → Prop where
  | badTimestamp {key : String} {value : Json} (hfirst : IsFirst e key value)
      (hword : ∀ seconds, WritesSeconds key seconds →
        seconds < -9223372036854775808 ∨ 9223372036854775807 < seconds) :
      Faulty e (.badTimestamp key)
  | outOfRange {key : String} {value : Json} {seconds : Int} (hfirst : IsFirst e key value)
      (hseconds : WritesSeconds key seconds) (hge : -9223372036854775808 ≤ seconds)
      (hle : seconds ≤ 9223372036854775807)
      (hout : 1000 * seconds < -9223372036854775808 ∨ 9223372036854775807 < 1000 * seconds) :
      Faulty e (.outOfRange seconds)
  | nonNumeric {key : String} {value : Json} {seconds : Int} (hfirst : IsFirst e key value)
      (hseconds : WritesSeconds key seconds) (hge : -9223372036854775 ≤ seconds)
      (hle : seconds ≤ 9223372036854775) (hvalue : ∀ x, ¬WritesValue value x) :
      Faulty e (.nonNumeric value)

/-- The fault of the first entry that is neither empty nor stands for a point. -/
def FirstFault (entries : List HistoryEntry) (fault : HistoryFault) : Prop :=
  ∃ before e after, entries = before ++ e :: after ∧
    (∀ e' ∈ before, e' ≠ [] → ∃ p, WritesPoint e' p) ∧ Faulty e fault

/-! ## Names and values -/

theorem isFirst_cons_iff {e : HistoryEntry} {k key : String} {v value : Json}
    (h : Ascending ((k, v) :: e)) : IsFirst ((k, v) :: e) key value ↔ key = k ∧ value = v := by
  obtain ⟨hk, -⟩ := List.pairwise_cons.mp h
  constructor
  · rintro ⟨hmem, hleast⟩
    rcases List.mem_cons.mp hmem with heq | hmem
    · exact ⟨congrArg Prod.fst heq, congrArg Prod.snd heq⟩
    · -- a later name is greater than the first one
      have hle : key ≤ k := Percent.utf8_le_iff.mp (hleast _ (List.mem_cons_self ..))
      exact absurd hle (hk _ hmem).not_ge
  · rintro ⟨rfl, rfl⟩
    refine ⟨List.mem_cons_self .., List.forall_mem_cons.mpr ⟨List.le_refl _, fun m hm => ?_⟩⟩
    exact Percent.utf8_le_iff.mpr (hk m hm).le

theorem not_isFirst_nil {key : String} {value : Json} : ¬IsFirst [] key value :=
  fun h => List.not_mem_nil h.1

theorem writesSeconds_iff {key : String} {seconds : Int} :
    WritesSeconds key seconds ↔ Writes (trimmed key.toList) seconds := by
  constructor
  · -- a numeral has no blanks at its ends, so it is what trimming leaves
    rintro ⟨front, numeral, back, hkey, hfront, hback, hwrites⟩
    have hblank := isBlank_of_writes hwrites
    have htrims : Trims key.toList numeral :=
      ⟨⟨front, back, hkey, hfront, hback⟩, fun c hc => hblank c (List.mem_of_mem_head? hc),
        fun c hc => hblank c (List.mem_of_mem_getLast? hc)⟩
    rwa [htrims.trimmed_eq]
  · intro h
    obtain ⟨front, back, hkey, hfront, hback⟩ := (trims_trimmed key.toList).between
    exact ⟨front, _, back, hkey, hfront, hback, h⟩

theorem fitsWord_iff {i : Int} : Decimal.fitsWord i = true ↔
    -9223372036854775808 ≤ i ∧ i ≤ 9223372036854775807 := by
  rw [Decimal.fitsWord, Bool.and_eq_true, decide_eq_true_eq, decide_eq_true_eq, Decimal.wordHalf]
  omega

/-- The times in seconds whose milliseconds fit 64 bits. -/
theorem fitsWord_millis_iff {seconds : Int} : Decimal.fitsWord (1000 * seconds) = true ↔
    -9223372036854775 ≤ seconds ∧ seconds ≤ 9223372036854775 := by
  rw [fitsWord_iff]
  omega

theorem seconds?_eq_some_iff {key : String} {seconds : Int} : seconds? key = some seconds ↔
    WritesSeconds key seconds ∧ Decimal.fitsWord seconds = true := by
  rw [seconds?, Option.filter_eq_some_iff, readInt?_eq_some_iff, writesSeconds_iff]

theorem textValue?_eq_some_iff {s : String} {x : Float} :
    textValue? s = some x ↔ WritesValue (.text s) x := by
  have htrims := trims_trimmed s.toList
  rw [textValue?, Option.or_eq_some_iff]
  simp only [← Option.not_isSome_iff_eq_none, Option.isSome_iff_exists, not_exists,
    Decimal.readFloat?_eq_some_iff]
  constructor
  · rintro (hx | ⟨hnone, hx⟩)
    · exact .text htrims hx
    · exact .commas htrims hnone hx
  · intro h
    cases h with
    | text hcore hx =>
      rw [hcore.trimmed_eq]
      exact Or.inl hx
    | commas hcore hnone hx =>
      rw [hcore.trimmed_eq]
      exact Or.inr ⟨hnone, hx⟩

theorem toFloat_int (i : Int) : (JsonNumber.int i).toFloat = Float.ofInt i := by
  cases i with
  | ofNat n => rfl
  | negSucc n => exact if_pos (Int.negSucc_lt_zero n)

theorem toFloat_eq_iff {n : JsonNumber} {x : Float} : n.toFloat = x ↔ NumberIs n x := by
  constructor
  · rintro rfl
    cases n with
    | int i =>
      rw [toFloat_int]
      exact .int i
    | float x => exact .float x
  · intro h
    cases h with
    | int i => exact toFloat_int i
    | float => rfl

theorem numeric?_eq_some_iff {value : Json} {x : Float} :
    numeric? value = some x ↔ WritesValue value x := by
  cases value with
  | number n =>
    rw [numeric?, Option.some.injEq, toFloat_eq_iff]
    refine ⟨.number, fun h => ?_⟩
    cases h with
    | number hx => exact hx
  | text s => exact textValue?_eq_some_iff
  | _ => constructor <;> rintro ⟨⟩

theorem numeric?_eq_none_iff {value : Json} :
    numeric? value = none ↔ ∀ x, ¬WritesValue value x := by
  simp only [Option.eq_none_iff_forall_ne_some, ne_eq, numeric?_eq_some_iff]

/-! ## Entries that are read -/

theorem ascending_of_entries? {j : Json} {entries : List HistoryEntry} (hj : j.Ordered)
    (h : entries? j = some entries) : ∀ e ∈ entries, Ascending e := by
  cases hj with
  | @list items hitems =>
    rw [entries?, Json.items?, Option.bind_eq_bind, Option.bind_some] at h
    induction items generalizing entries with
    | nil =>
      cases h
      exact List.forall_mem_nil _
    | cons j items ih =>
      obtain ⟨hj, hitems⟩ := List.forall_mem_cons.mp hitems
      simp only [List.mapM_cons, Option.bind_eq_bind, Option.bind_eq_some_iff, Option.pure_def,
        Option.some.injEq] at h
      obtain ⟨e, he, rest, hrest, rfl⟩ := h
      refine List.forall_mem_cons.mpr ⟨?_, ih hitems hrest⟩
      cases hj with
      | object hnames _ =>
        cases he
        exact hnames
      | _ => cases he
  | _ => cases h

/-- Entries that come as JSON text have their members in ascending order. -/
theorem ascending_of_readAs {cs rest : List Char} {entries : List HistoryEntry}
    (h : Remote.readAs entries? cs = .ok (entries, rest)) : ∀ e ∈ entries, Ascending e := by
  obtain ⟨⟨j, rest'⟩, hj, h⟩ := bind_eq_ok_iff.mp h
  cases hentries : entries? j with
  | none =>
    simp only [hentries] at h
    cases h
  | some entries' =>
    simp only [hentries] at h
    cases h
    exact ascending_of_entries? (Json.ordered_of_readValue hj) hentries

/-! ## One entry -/

section Entry

variable {key : String} {value : Json} {seconds : Int} {e : HistoryEntry}

theorem seconds?_of_writes (h : WritesSeconds key seconds) (hge : -9223372036854775808 ≤ seconds)
    (hle : seconds ≤ 9223372036854775807) : seconds? key = some seconds :=
  seconds?_eq_some_iff.mpr ⟨h, fitsWord_iff.mpr ⟨hge, hle⟩⟩

theorem seconds?_eq_none_iff : seconds? key = none ↔ ∀ seconds, WritesSeconds key seconds →
    seconds < -9223372036854775808 ∨ 9223372036854775807 < seconds := by
  rw [Option.eq_none_iff_forall_ne_some]
  refine forall_congr' fun seconds => ?_
  rw [ne_eq, seconds?_eq_some_iff, fitsWord_iff, not_and]
  exact imp_congr_right fun _ => by omega

/-- What is decoded of an entry is what it stands for. -/
theorem writes_or_faulty_of_decodePoint (h : Ascending ((key, value) :: e)) :
    match decodePoint key value with
    | .ok p => WritesPoint ((key, value) :: e) p
    | .error fault => Faulty ((key, value) :: e) fault := by
  have hfirst : IsFirst ((key, value) :: e) key value := (isFirst_cons_iff h).mpr ⟨rfl, rfl⟩
  -- the cases are split as the checks follow each other: numeral, range, value
  cases hseconds : seconds? key with
  | none =>
    simp only [decodePoint, hseconds]
    exact .badTimestamp hfirst (seconds?_eq_none_iff.mp hseconds)
  | some seconds =>
    obtain ⟨hwrites, hword⟩ := seconds?_eq_some_iff.mp hseconds
    rw [fitsWord_iff] at hword
    by_cases hfits : Decimal.fitsWord (1000 * seconds) = true
    · obtain ⟨hge, hle⟩ := fitsWord_millis_iff.mp hfits
      cases hvalue : numeric? value with
      | some x =>
        simp only [decodePoint, hseconds, if_pos hfits, hvalue]
        exact .intro hfirst hwrites hge hle (numeric?_eq_some_iff.mp hvalue)
      | none =>
        simp only [decodePoint, hseconds, if_pos hfits, hvalue]
        exact .nonNumeric hfirst hwrites hge hle (numeric?_eq_none_iff.mp hvalue)
    · simp only [decodePoint, hseconds, if_neg hfits]
      rw [fitsWord_iff] at hfits
      exact .outOfRange hfirst hwrites hword.1 hword.2 (by omega)

theorem decodePoint_eq_ok_iff (h : Ascending ((key, value) :: e)) {p : HistoryPoint} :
    decodePoint key value = .ok p ↔ WritesPoint ((key, value) :: e) p := by
  constructor
  · intro hdecode
    have hfound := writes_or_faulty_of_decodePoint h
    rwa [hdecode] at hfound
  · rintro ⟨hfirst, hseconds, hge, hle, hvalue⟩
    obtain ⟨rfl, rfl⟩ := (isFirst_cons_iff h).mp hfirst
    rw [decodePoint, seconds?_of_writes hseconds (by omega) (by omega),
      numeric?_eq_some_iff.mpr hvalue]
    exact if_pos (fitsWord_millis_iff.mpr ⟨hge, hle⟩)

theorem decodePoint_eq_error_iff (h : Ascending ((key, value) :: e)) {fault : HistoryFault} :
    decodePoint key value = .error fault ↔ Faulty ((key, value) :: e) fault := by
  constructor
  · intro hdecode
    have hfound := writes_or_faulty_of_decodePoint h
    rwa [hdecode] at hfound
  · intro hfault
    cases hfault with
    | badTimestamp hfirst hword =>
      obtain ⟨rfl, rfl⟩ := (isFirst_cons_iff h).mp hfirst
      rw [decodePoint, seconds?_eq_none_iff.mpr hword]
    | outOfRange hfirst hseconds hge hle hout =>
      obtain ⟨rfl, rfl⟩ := (isFirst_cons_iff h).mp hfirst
      rw [decodePoint, seconds?_of_writes hseconds hge hle]
      refine if_neg fun hfits => ?_
      rw [fitsWord_iff] at hfits
      omega
    | nonNumeric hfirst hseconds hge hle hvalue =>
      obtain ⟨rfl, rfl⟩ := (isFirst_cons_iff h).mp hfirst
      rw [decodePoint, seconds?_of_writes hseconds (by omega) (by omega),
        numeric?_eq_none_iff.mpr hvalue]
      exact if_pos (fitsWord_millis_iff.mpr ⟨hge, hle⟩)

end Entry

/-! ## Whole histories -/

section Entries

variable {entries : List HistoryEntry}

theorem not_faulty_nil {fault : HistoryFault} : ¬Faulty [] fault := by
  rintro (h | h | h) <;> exact not_isFirst_nil h

theorem decode_cons (key : String) (value : Json) (e : HistoryEntry) :
    decode (((key, value) :: e) :: entries) =
      decodePoint key value >>= fun p => decode entries >>= fun ps => .ok (p :: ps) := rfl

theorem decode_eq_ok_iff (h : ∀ e ∈ entries, Ascending e) {points : List HistoryPoint} :
    decode entries = .ok points ↔
      List.Forall₂ WritesPoint (entries.filter fun e => !e.isEmpty) points := by
  induction entries generalizing points with
  | nil =>
    rw [decode, Except.ok.injEq, List.filter_nil, List.forall₂_nil_left_iff, eq_comm]
  | cons e rest ih =>
    obtain ⟨he, hrest⟩ := List.forall_mem_cons.mp h
    cases e with
    | nil =>
      -- an empty entry is left out on both sides
      exact ih hrest
    | cons m e =>
      obtain ⟨key, value⟩ := m
      rw [decode_cons, bind_eq_ok_iff, List.filter_cons_of_pos rfl, List.forall₂_cons_left_iff]
      refine exists_congr fun p => ?_
      rw [decodePoint_eq_ok_iff he, bind_eq_ok_iff]
      constructor
      · rintro ⟨hp, tail, htail, ⟨⟩⟩
        exact ⟨tail, hp, (ih hrest).mp htail, rfl⟩
      · rintro ⟨tail, hp, htail, rfl⟩
        exact ⟨hp, tail, (ih hrest).mpr htail, rfl⟩

theorem firstFault_cons_iff {e : HistoryEntry} {fault : HistoryFault} :
    FirstFault (e :: entries) fault ↔
      Faulty e fault ∨ (e ≠ [] → ∃ p, WritesPoint e p) ∧ FirstFault entries fault := by
  constructor
  · rintro ⟨before, e', after, hsplit, hbefore, hfault⟩
    cases before with
    | nil =>
      -- nothing stands in front of the faulty entry, so it is the first one
      obtain ⟨rfl, rfl⟩ := List.cons.inj hsplit
      exact Or.inl hfault
    | cons first before =>
      obtain ⟨rfl, hrest⟩ := List.cons.inj hsplit
      obtain ⟨hfirst, hbefore⟩ := List.forall_mem_cons.mp hbefore
      exact Or.inr ⟨hfirst, before, e', after, hrest, hbefore, hfault⟩
  · rintro (hfault | ⟨hfirst, before, e', after, rfl, hbefore, hfault⟩)
    · exact ⟨[], e, entries, rfl, List.forall_mem_nil _, hfault⟩
    · exact ⟨e :: before, e', after, rfl, List.forall_mem_cons.mpr ⟨hfirst, hbefore⟩, hfault⟩

/-- The fault of the whole is that of the first faulty entry. -/
theorem decode_eq_error_iff (h : ∀ e ∈ entries, Ascending e) {fault : HistoryFault} :
    decode entries = .error fault ↔ FirstFault entries fault := by
  induction entries with
  | nil =>
    constructor
    · rintro ⟨⟩
    · rintro ⟨before, e, after, hsplit, -⟩
      exact absurd hsplit.symm (List.append_ne_nil_of_right_ne_nil _ (List.cons_ne_nil _ _))
  | cons e rest ih =>
    obtain ⟨he, hrest⟩ := List.forall_mem_cons.mp h
    rw [firstFault_cons_iff, ← ih hrest]
    cases e with
    | nil =>
      rw [decode]
      exact ⟨fun hrest => Or.inr ⟨fun hne => absurd rfl hne, hrest⟩,
        fun hor => (hor.resolve_left not_faulty_nil).2⟩
    | cons m e =>
      -- a fault of this entry comes first, and without one that of the rest is the fault
      obtain ⟨key, value⟩ := m
      rw [decode_cons, bind_eq_error_iff, decodePoint_eq_error_iff he]
      apply or_congr_right
      constructor
      · rintro ⟨p, hp, hdecode⟩
        rcases bind_eq_error_iff.mp hdecode with hfault | ⟨_, _, ⟨⟩⟩
        exact ⟨fun _ => ⟨p, (decodePoint_eq_ok_iff he).mp hp⟩, hfault⟩
      · rintro ⟨hgood, hdecode⟩
        obtain ⟨p, hp⟩ := hgood (List.cons_ne_nil _ _)
        exact ⟨p, (decodePoint_eq_ok_iff he).mpr hp, bind_eq_error_iff.mpr (Or.inl hdecode)⟩

theorem exists_forall₂_iff {α β : Type} {R : α → β → Prop} {l : List α} :
    (∃ l', List.Forall₂ R l l') ↔ ∀ a ∈ l, ∃ b, R a b := by
  induction l with
  | nil => simp
  | cons a l ih =>
    simp only [List.forall₂_cons_left_iff, List.forall_mem_cons, ← ih]
    constructor
    · rintro ⟨_, b, l', hb, hl', rfl⟩
      exact ⟨⟨b, hb⟩, l', hl'⟩
    · rintro ⟨⟨b, hb⟩, l', hl'⟩
      exact ⟨b :: l', b, l', hb, hl', rfl⟩

theorem exists_decode_eq_ok_iff (h : ∀ e ∈ entries, Ascending e) :
    (∃ points, decode entries = .ok points) ↔ ∀ e ∈ entries, e ≠ [] → ∃ p, WritesPoint e p := by
  simp only [decode_eq_ok_iff h, exists_forall₂_iff, List.mem_filter, and_imp, Bool.not_eq_true',
    List.isEmpty_eq_false_iff]

theorem WritesPoint.fitsWord {e : HistoryEntry} {p : HistoryPoint} (h : WritesPoint e p) :
    Decimal.fitsWord p.timestamp = true := by
  obtain ⟨_, _, hge, hle, _⟩ := h
  exact fitsWord_millis_iff.mpr ⟨hge, hle⟩

/-- Milliseconds that are decoded fit 64 bits. -/
theorem timestamp_of_decode (h : ∀ e ∈ entries, Ascending e) {points : List HistoryPoint}
    (hdecode : decode entries = .ok points) :
    ∀ p ∈ points, Decimal.fitsWord p.timestamp = true := by
  have hpoints := ((decode_eq_ok_iff h).mp hdecode).flip
  exact ((List.forall₂_and_left _ _).mp (hpoints.imp fun _ _ hp => ⟨hp.fitsWord, hp⟩)).1

end Entries

/-! ## Printed seconds -/

/-- A value under a printed time, with blanks around the time. -/
structure Printed where
  front : List Char
  seconds : Int
  back : List Char
  value : Json
  double : Float

namespace Printed

def entry (p : Printed) : HistoryEntry :=
  [(String.ofList (p.front ++ decimalInt p.seconds ++ p.back), p.value)]

def point (p : Printed) : HistoryPoint := ⟨1000 * p.seconds, p.double⟩

/-- Nothing but blanks stands around the time, its milliseconds fit 64 bits, and the value writes
the double. -/
structure IsGood (p : Printed) : Prop where
  front : AllBlank p.front
  back : AllBlank p.back
  ge : -9223372036854775 ≤ p.seconds
  le : p.seconds ≤ 9223372036854775
  value : WritesValue p.value p.double

theorem ascending_entry (p : Printed) : Ascending p.entry := List.pairwise_singleton _ _

theorem writesPoint {p : Printed} (h : p.IsGood) : WritesPoint p.entry p.point := by
  have hseconds : WritesSeconds (String.ofList (p.front ++ decimalInt p.seconds ++ p.back))
      p.seconds :=
    ⟨p.front, _, p.back, String.toList_ofList, h.front, h.back, writes_decimalInt _⟩
  exact .intro ((isFirst_cons_iff p.ascending_entry).mpr ⟨rfl, rfl⟩) hseconds h.ge h.le h.value

theorem decode_entries {printed : List Printed} (h : ∀ p ∈ printed, p.IsGood) :
    decode (printed.map entry) = .ok (printed.map point) := by
  have hascending : ∀ e ∈ printed.map entry, Ascending e :=
    List.forall_mem_map.mpr fun p _ => p.ascending_entry
  have hfilter : (printed.map entry).filter (fun e => !e.isEmpty) = printed.map entry :=
    List.filter_eq_self.mpr (List.forall_mem_map.mpr fun _ _ => rfl)
  rw [decode_eq_ok_iff hascending, hfilter, List.forall₂_map_left_iff, List.forall₂_map_right_iff,
    List.forall₂_same]
  exact fun p hp => writesPoint (h p hp)

end Printed

/-! ## The main statement -/

/-- Decoding succeeds exactly if every entry that is not empty writes a point. It finds these points
in the order of their entries, and their milliseconds fit 64 bits. Else it finds the fault of the
first entry that writes none. Whatever seconds in range are printed, with any blanks around them,
are found again. -/
theorem decode_points_or_first_fault {entries : List HistoryEntry}
    (h : ∀ e ∈ entries, Ascending e) :
    ((∃ points, decode entries = .ok points) ↔ ∀ e ∈ entries, e ≠ [] → ∃ p, WritesPoint e p) ∧
    (∀ points, decode entries = .ok points ↔
      List.Forall₂ WritesPoint (entries.filter fun e => !e.isEmpty) points) ∧
    (∀ points, decode entries = .ok points →
      ∀ p ∈ points, Decimal.fitsWord p.timestamp = true) ∧
    (∀ fault, decode entries = .error fault ↔ FirstFault entries fault) ∧
    ∀ printed : List Printed, (∀ p ∈ printed, p.IsGood) →
      decode (printed.map Printed.entry) = .ok (printed.map Printed.point) :=
  ⟨exists_decode_eq_ok_iff h, fun _ => decode_eq_ok_iff h, fun _ => timestamp_of_decode h,
    fun _ => decode_eq_error_iff h, fun _ => Printed.decode_entries⟩

/-- Entries with two members and with none. -/
def mixed : List HistoryEntry :=
  [[(" +1000\u00a0", .text "21,5 "), ("2000", .null)], [], [("-5", .number (.int 3))],
    [("07", .text "-12.5e-1")]]

/-- Of two members the first one counts, and an empty entry for nothing. One second more than fits,
at the end, is the fault of the whole. -/
theorem decode_points_or_first_fault_mixed :
    (∀ e ∈ mixed, Ascending e) ∧
    List.Forall₂ WritesPoint (mixed.filter fun e => !e.isEmpty)
      [⟨1000000, 21.5⟩, ⟨-5000, 3⟩, ⟨7000, -1.25⟩] ∧
    FirstFault (mixed ++ [[("9223372036854776", .null)]]) (.outOfRange 9223372036854776) := by
  have hascending : ∀ e ∈ mixed, Ascending e := by decide
  have hlate : ∀ e ∈ mixed ++ [[("9223372036854776", .null)]], Ascending e := by decide
  have hdecode : decode mixed = .ok [⟨1000000, 21.5⟩, ⟨-5000, 3⟩, ⟨7000, -1.25⟩] := rfl
  refine ⟨hascending, ?_, ?_⟩
  · exact ((decode_points_or_first_fault hascending).2.1 _).mp hdecode
  · exact ((decode_points_or_first_fault hlate).2.2.2.1 _).mp rfl

end SensorBoard.History
