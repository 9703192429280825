import SensorBoard.Text.Percent

/-!
# Encoded segments

Percent encoding goes over the bytes of a text one by one. What it writes has the form of a segment
(`encoded_encode`): plain characters, and escapes of two upper-case digits, and nothing that would
end or split a segment. Decoding gives the bytes of the text back (`decodeBytes_encode`), so no two
texts are encoded alike (`encode_injective`).
-/

namespace SensorBoard.Text.Percent

/-- The printable ASCII characters other than the space that are not plain. -/
def forbidden : List Char := ['"', '#', '%', '/', '<', '>', '?', '\\', '\x60', '\x7b', '\x7d']

/-- Does the character stand for itself in a segment? -/
def isPlain (c : Char) : Bool :=
  decide (0x20 < c.toNat) && decide (c.toNat < 0x7F) && !forbidden.contains c

def isUpperHex (c : Char) : Bool := "0123456789ABCDEF".toList.contains c

/-- The form of an encoded segment: a percent sign stands only at the start of an escape. -/
inductive Encoded : List Char → Prop where
  | nil : Encoded []
  | plain {c : Char} {cs : List Char} (hc : isPlain c = true) (hcs : Encoded cs) : Encoded (c :: cs)
  | escape {high low : Char} {cs : List Char} (hhigh : isUpperHex high = true)
      (hlow : isUpperHex low = true) (hcs : Encoded cs) : Encoded ('%' :: high :: low :: cs)

/-! ## One byte -/

theorem isUpperHex_hexCharUpper : ∀ d < 16, isUpperHex (hexCharUpper d) = true := by decide

theorem hexValue?_hexCharUpper : ∀ d < 16, hexValue? (hexCharUpper d) = some d := by decide

/-- A byte that is not reserved is the whole of a plain character. -/
theorem plain_of_not_reserved : ∀ n < 256, isReserved (UInt8.ofNat n) = false →
    isPlain (Char.ofNat n) = true ∧ String.utf8EncodeChar (Char.ofNat n) = [UInt8.ofNat n] := by
  decide +kernel

theorem ne_percent_of_isPlain {c : Char} (h : isPlain c = true) : c ≠ '%' := by
  rintro rfl
  exact absurd h (by decide)

theorem decodeBytes_cons {c : Char} (h : c ≠ '%') (cs : List Char) :
    decodeBytes (c :: cs) = String.utf8EncodeChar c ++ decodeBytes cs := by
  rw [decodeBytes]
  exact fun _ _ _ hpercent _ => h hpercent

theorem decodeBytes_escape (b : UInt8) (cs : List Char) :
    decodeBytes (escape b ++ cs) = b :: decodeBytes cs := by
  have hbyte : b.toNat < 256 := b.toNat_lt
  have hhigh := hexValue?_hexCharUpper (b.toNat / 16) (by omega)
  have hlow := hexValue?_hexCharUpper (b.toNat % 16) (by omega)
  have hdigits : 16 * (b.toNat / 16) + b.toNat % 16 = b.toNat := Nat.div_add_mod _ _
  simp only [escape, List.cons_append, List.nil_append, decodeBytes, hhigh, hlow, hdigits,
    UInt8.ofNat_toNat]

theorem decodeBytes_encodeByte (b : UInt8) (cs : List Char) :
    decodeBytes (encodeByte b ++ cs) = b :: decodeBytes cs := by
  rw [encodeByte]
  split
  next => exact decodeBytes_escape b cs
  next h =>
    -- the character that stands for the byte has no other byte
    have hb : UInt8.ofNat b.toNat = b := UInt8.ofNat_toNat
    obtain ⟨hplain, hutf8⟩ := plain_of_not_reserved b.toNat b.toNat_lt (by rw [hb]; simpa using h)
    rw [List.singleton_append, decodeBytes_cons (ne_percent_of_isPlain hplain), hutf8, hb]
    rfl

theorem Encoded.encodeByte {cs : List Char} (h : Encoded cs) (b : UInt8) :
    Encoded (encodeByte b ++ cs) := by
  rw [Percent.encodeByte]
  split
  next =>
    have hbyte : b.toNat < 256 := b.toNat_lt
    exact .escape (isUpperHex_hexCharUpper _ (by omega)) (isUpperHex_hexCharUpper _ (by omega)) h
  next hb =>
    have hofNat : UInt8.ofNat b.toNat = b := UInt8.ofNat_toNat
    exact .plain (plain_of_not_reserved b.toNat b.toNat_lt (by rw [hofNat]; simpa using hb)).1 h

/-! ## Whole texts -/

theorem encoded_flatMap (bytes : List UInt8) : Encoded (bytes.flatMap encodeByte) := by
  induction bytes with
  | nil => exact .nil
  | cons b rest ih => exact ih.encodeByte b

theorem decodeBytes_flatMap (bytes : List UInt8) :
    decodeBytes (bytes.flatMap encodeByte) = bytes := by
  induction bytes with
  | nil => rfl
  | cons b rest ih => rw [List.flatMap_cons, decodeBytes_encodeByte, ih]

/-- An encoded text is a single segment. -/
theorem encoded_encode (s : String) : Encoded (encode s).toList := by
  rw [encode, String.toList_ofList]
  exact encoded_flatMap (utf8 s)

/-- Decoding an encoded text gives its bytes back. -/
theorem decodeBytes_encode (s : String) : decodeBytes (encode s).toList = utf8 s := by
  rw [encode, String.toList_ofList, decodeBytes_flatMap]

theorem decode?_encode (s : String) : decode? (encode s) = some s := by
  have hbytes : ByteArray.mk (utf8 s).toArray = s.toByteArray := rfl
  rw [decode?, decodeBytes_encode, hbytes, String.fromUTF8?, dif_pos s.isValidUTF8]
  rfl

theorem encode_injective : Function.Injective encode := by
  intro s t h
  have hdecoded : decode? (encode s) = decode? (encode t) := by rw [h]
  rw [decode?_encode, decode?_encode] at hdecoded
  exact Option.some.inj hdecoded

theorem utf8_injective : Function.Injective utf8 := by
  intro s t h
  apply encode_injective
  rw [encode, encode, h]

/-- The characters of a segment: it has no slash, and a percent sign is not plain. -/
theorem Encoded.isPlain_or_percent {cs : List Char} (h : Encoded cs) :
    ∀ c ∈ cs, isPlain c = true ∨ c = '%' := by
  have hdigits : "0123456789ABCDEF".toList.all isPlain = true := by decide
  induction h with
  | nil => simp
  | plain hc _ ih => exact List.forall_mem_cons.mpr ⟨Or.inl hc, ih⟩
  | escape hhigh hlow _ ih =>
    -- both digits of an escape are plain
    refine List.forall_mem_cons.mpr ⟨Or.inr rfl, ?_⟩
    have hplain {d : Char} (hd : isUpperHex d = true) : isPlain d = true :=
      List.all_eq_true.mp hdigits d (List.contains_iff_mem.mp hd)
    refine List.forall_mem_cons.mpr ⟨Or.inl (hplain hhigh), ?_⟩
    exact List.forall_mem_cons.mpr ⟨Or.inl (hplain hlow), ih⟩

theorem slash_notMem_encode (s : String) : '/' ∉ (encode s).toList := by
  intro hmem
  rcases (encoded_encode s).isPlain_or_percent '/' hmem with h | h <;> exact absurd h (by decide)

end SensorBoard.Text.Percent
