import Mathlib.Data.Bool.AllAny
import Mathlib.Data.List.Basic
import Mathlib.Data.List.TakeWhile
import SensorBoard.Lookup.Address
import SensorBoard.Proofs.Text.Percent

/-!
# Addresses of encoded segments

Before a request is sent, the segments of its path that are only steps are taken out of it, in
whatever way they are written. An encoded name is such a segment exactly if it is a dot or two dots
(`isSingleDot_encode_iff`, `isDoubleDot_encode_iff`). Nothing else happens to a path of encoded
segments behind a host (`parse?_http`).
-/

namespace SensorBoard

open Text.Percent

/-! ## Letter case -/

namespace Text

theorem eq_or_eq_toUpper_of_lt : ∀ n < 91, Char.ofNat n = (Char.ofNat n).toLower ∨
    Char.ofNat n = (Char.ofNat n).toLower.toUpper := by
  decide

theorem toLower_of_le {c : Char} (h : 91 ≤ c.toNat) : c.toLower = c := by
  have hupper : ¬('A'.val ≤ c.val ∧ c.val ≤ 'Z'.val) := by
    rintro ⟨_, hle⟩
    have hle : c.toNat ≤ 90 := UInt32.le_iff_toNat_le.mp hle
    omega
  exact dif_neg hupper

/-- A character in lower case was that already, or it was the same letter in upper case. -/
theorem eq_or_eq_toUpper (c : Char) : c = c.toLower ∨ c = c.toLower.toUpper := by
  rcases Nat.lt_or_ge c.toNat 91 with hlt | hle
  · have hchar := eq_or_eq_toUpper_of_lt c.toNat hlt
    rwa [Char.ofNat_toNat] at hchar
  · exact Or.inl (toLower_of_le hle).symm

/-- The ways to write a word in lower case with some of its letters in upper case. -/
def casings : List Char → List (List Char)
  | [] => [[]]
  | d :: word => (casings word).flatMap fun cs => [d :: cs, d.toUpper :: cs]

theorem mem_casings (cs : List Char) : cs ∈ casings (cs.map Char.toLower) := by
  induction cs with
  | nil => exact List.mem_singleton_self []
  | cons c cs ih =>
    rw [List.map_cons, casings]
    refine List.mem_flatMap.mpr ⟨cs, ih, ?_⟩
    rcases eq_or_eq_toUpper c with h | h <;> simp [← h]

end Text

/-! ## Steps -/

namespace Address

/-- A segment that is one of some words in any case stands for the same as all of them. -/
theorem decodeBytes_of_lower {words : List String} {bytes : List UInt8} {segment : String}
    (hwords : ∀ word ∈ words, ∀ cs ∈ Text.casings word.toList, decodeBytes cs = bytes)
    (h : words.contains (Text.lower segment) = true) : decodeBytes segment.toList = bytes := by
  refine hwords _ (List.contains_iff_mem.mp h) _ ?_
  rw [Text.lower, String.toList_ofList]
  exact Text.mem_casings segment.toList

theorem decodeBytes_of_isSingleDot {segment : String} (h : isSingleDot segment = true) :
    decodeBytes segment.toList = utf8 "." :=
  decodeBytes_of_lower (by decide +kernel) h

theorem decodeBytes_of_isDoubleDot {segment : String} (h : isDoubleDot segment = true) :
    decodeBytes segment.toList = utf8 ".." :=
  decodeBytes_of_lower (by decide +kernel) h

theorem isSingleDot_encode_iff {name : String} : isSingleDot (encode name) = true ↔ name = "." := by
  constructor
  · intro h
    apply utf8_injective
    rw [← decodeBytes_encode, decodeBytes_of_isSingleDot h]
  · rintro rfl
    decide +kernel

theorem isDoubleDot_encode_iff {name : String} :
    isDoubleDot (encode name) = true ↔ name = ".." := by
  constructor
  · intro h
    apply utf8_injective
    rw [← decodeBytes_encode, decodeBytes_of_isDoubleDot h]
  · rintro rfl
    decide +kernel

/-- The segment is sent as it is, and it is no step. -/
structure Settled (segment : String) : Prop where
  encoded : Encoded segment.toList
  isSingleDot_eq : isSingleDot segment = false
  isDoubleDot_eq : isDoubleDot segment = false

theorem settled_encode {name : String} (hsingle : name ≠ ".") (hdouble : name ≠ "..") :
    Settled (encode name) where
  encoded := encoded_encode name
  isSingleDot_eq := by rwa [← Bool.not_eq_true, isSingleDot_encode_iff]
  isDoubleDot_eq := by rwa [← Bool.not_eq_true, isDoubleDot_encode_iff]

variable {front behind : List String}

theorem resolve_append (hfront : ∀ s ∈ front, Settled s) (segments : List String) :
    resolve (front ++ segments) = resolveFrom front.reverse segments := by
  have hdots : ∀ s ∈ front, isSingleDot s = false ∧ isDoubleDot s = false :=
    fun s hs => ⟨(hfront s hs).isSingleDot_eq, (hfront s hs).isDoubleDot_eq⟩
  rw [resolve, resolveFrom_append hdots, List.append_nil]

theorem resolve_of_settled (hfront : ∀ s ∈ front, Settled s) : resolve front = front :=
  resolve_of_noDots fun s hs => ⟨(hfront s hs).isSingleDot_eq, (hfront s hs).isDoubleDot_eq⟩

theorem resolveFrom_singleDot (hne : behind ≠ []) (passed : List String) :
    resolveFrom passed ("." :: behind) = resolveFrom passed behind := by
  have hsingle : isSingleDot "." = true := by decide +kernel
  have hdouble : isDoubleDot "." = false := by decide +kernel
  simp [resolveFrom, hsingle, hdouble, hne]

theorem resolveFrom_doubleDot (hne : behind ≠ []) (passed : List String) :
    resolveFrom passed (".." :: behind) = resolveFrom passed.tail behind := by
  have hdouble : isDoubleDot ".." = true := by decide +kernel
  simp [resolveFrom, hdouble, hne]

/-- A step that stays where it is is left out. -/
theorem resolve_singleDot (hfront : ∀ s ∈ front, Settled s) (hbehind : ∀ s ∈ behind, Settled s)
    (hne : behind ≠ []) : resolve (front ++ "." :: behind) = front ++ behind := by
  rw [resolve_append hfront, resolveFrom_singleDot hne, ← resolve_append hfront]
  exact resolve_of_settled (List.forall_mem_append.mpr ⟨hfront, hbehind⟩)

/-- A step to the place above is left out together with the place that it leaves. -/
theorem resolve_doubleDot {left : String} (hfront : ∀ s ∈ front, Settled s) (hleft : Settled left)
    (hbehind : ∀ s ∈ behind, Settled s) (hne : behind ≠ []) :
    resolve (front ++ left :: ".." :: behind) = front ++ behind := by
  have hpassed : ∀ s ∈ front ++ [left], Settled s :=
    List.forall_mem_append.mpr ⟨hfront, List.forall_mem_singleton.mpr hleft⟩
  rw [List.append_cons, resolve_append hpassed, resolveFrom_doubleDot hne, List.reverse_concat,
    List.tail_cons, ← resolve_append hfront]
  exact resolve_of_settled (List.forall_mem_append.mpr ⟨hfront, hbehind⟩)

/-! ## Reading an address -/

/-- A host that is not mistaken for more or less than a host. -/
structure Host (host : String) : Prop where
  isHost : isHost host.toList = true
  chars : ∀ c ∈ host.toList, 0x20 < c.toNat ∧ c ∉ ['/', '\\', '?', '#', '@']

theorem significant_eq_self {cs : List Char} (h : ∀ c ∈ cs, 0x20 < c.toNat) :
    significant cs = cs := by
  have hedge {cs : List Char} (h : ∀ c ∈ cs, 0x20 < c.toNat) :
      cs.dropWhile (fun c => decide (c.toNat ≤ 0x20)) = cs := by
    cases cs with
    | nil => rfl
    | cons c cs => exact List.dropWhile_cons_of_neg (by simpa using h c (List.mem_cons_self ..))
  have hreverse : ∀ c ∈ cs.reverse, 0x20 < c.toNat := fun c hc => h c (List.mem_reverse.mp hc)
  rw [significant, hedge h, hedge hreverse, List.reverse_reverse]
  refine List.filter_eq_self.mpr fun c hc => ?_
  -- tabs and line ends are controls
  have hlt := h c hc
  have hne {d : Char} (hd : d.toNat ≤ 0x20) : c ≠ d := by
    rintro rfl
    omega
  simp [hne (d := '\t') (by decide), hne (d := '\n') (by decide), hne (d := '\r') (by decide)]

/-- The characters of an encoded segment are sent as they are, and none of them ends it. -/
theorem chars_of_encoded {cs : List Char} (h : Encoded cs) :
    ∀ c ∈ cs, 0x20 < c.toNat ∧ c.toNat < 0x7F ∧
      c ∉ ['"', '#', '/', '<', '>', '?', '\\', '\x60', '\x7b', '\x7d'] := by
  intro c hc
  rcases h.isPlain_or_percent c hc with hplain | rfl
  · simp only [isPlain, Bool.and_eq_true, decide_eq_true_eq, forbidden] at hplain
    obtain ⟨⟨hlow, hhigh⟩, hforbidden⟩ := hplain
    refine ⟨hlow, hhigh, fun hmem => ?_⟩
    simp_all
  · decide

theorem sentSegment_eq_self {segment : String} (h : Encoded segment.toList) :
    sentSegment segment = segment := by
  have hsent : ∀ c ∈ segment.toList, sentChar (fun c => isUnsent c ||
      ['"', '<', '>', '\x60', '\x7b', '\x7d'].contains c) c = [c] := by
    intro c hc
    obtain ⟨hlow, hhigh, hforbidden⟩ := chars_of_encoded h c hc
    have hunsent : isUnsent c = false := by
      rw [isUnsent, Bool.or_eq_false_iff, decide_eq_false_iff_not, decide_eq_false_iff_not]
      omega
    simp_all [sentChar]
  rw [sentSegment, List.flatMap_congr hsent, List.flatMap_singleton', String.ofList_toList]

/-- The host of an address is what stands in front of its first slash. -/
theorem Host.split {host : String} (h : Host host) (path : List Char) :
    (host.toList ++ '/' :: path).takeWhile (fun c => !(isSlash c || c == '?' || c == '#')) =
        host.toList ∧
      (host.toList ++ '/' :: path).dropWhile (fun c => !(isSlash c || c == '?' || c == '#')) =
        '/' :: path := by
  have hinside : ∀ c ∈ host.toList, (!(isSlash c || c == '?' || c == '#')) = true := by
    intro c hc
    have hends := (h.chars c hc).2
    simp_all [isSlash]
  have hend : (!(isSlash '/' || '/' == '?' || '/' == '#')) = false := by decide
  constructor
  · rw [List.takeWhile_append_of_pos hinside, List.takeWhile_cons_of_neg (by rw [hend]; decide),
      List.append_nil]
  · rw [List.dropWhile_append_of_pos hinside, List.dropWhile_cons_of_neg (by rw [hend]; decide)]

/-- There is no user in front of the host. -/
theorem Host.hostOf_eq {host : String} (h : Host host) : hostOf host.toList = host.toList := by
  have hat : ∀ c ∈ host.toList.reverse, (c != '@') = true := by
    intro c hc
    have hends := (h.chars c (List.mem_reverse.mp hc)).2
    simp_all
  rw [hostOf, List.takeWhile_eq_self_iff.mpr hat, List.reverse_reverse]

theorem Host.behindScheme? {host : String} (h : Host host) (path : List Char) :
    Address.behindScheme? ("http://".toList ++ (host.toList ++ '/' :: path)) =
      some (host.toList ++ '/' :: path) := by
  have hscheme : (("http://".toList ++ (host.toList ++ '/' :: path)).take 5).map Char.toLower =
      "http:".toList := rfl
  have hslashes : ("http://".toList ++ (host.toList ++ '/' :: path)).drop 5 =
      '/' :: '/' :: (host.toList ++ '/' :: path) := rfl
  have hfirst : (host.toList ++ '/' :: path).dropWhile isSlash = host.toList ++ '/' :: path := by
    cases hchars : host.toList with
    | nil =>
      -- no host is empty
      have hhost := h.isHost
      rw [hchars] at hhost
      exact absurd hhost (by decide)
    | cons c cs =>
      have hends := (h.chars c (hchars ▸ List.mem_cons_self ..)).2
      exact List.dropWhile_cons_of_neg (by simp_all [isSlash])
  rw [Address.behindScheme?, if_pos hscheme, hslashes, List.dropWhile_cons_of_pos rfl,
    List.dropWhile_cons_of_pos rfl, hfirst]

/-- An address with a path of characters that do not end it. -/
theorem parse?_of_path {host : String} {path : List Char} (hhost : Host host)
    (hpath : ∀ c ∈ path, 0x20 < c.toNat ∧ c ∉ ['?', '#', '\\']) :
    parse? ("http://" ++ host ++ "/" ++ String.ofList path) = some ⟨host, "/" ++ "/".intercalate
      ((resolve ((Text.splitChars '/' path).map String.ofList)).map sentSegment)⟩ := by
  have hscheme : ∀ c ∈ "http://".toList, 0x20 < c.toNat := List.all_iff_forall_prop.mp (by decide)
  have hslash : ∀ c ∈ "/".toList, 0x20 < c.toNat := List.all_iff_forall_prop.mp (by decide)
  have hurl : significant ("http://" ++ host ++ "/" ++ String.ofList path).toList =
      "http://".toList ++ (host.toList ++ '/' :: path) := by
    rw [significant_eq_self]
    · simp
    · intro c hc
      simp only [String.toList_append, String.toList_ofList, List.mem_append] at hc
      rcases hc with ((hc | hc) | hc) | hc
      · exact hscheme c hc
      · exact (hhost.chars c hc).1
      · exact hslash c hc
      · exact (hpath c hc).1
  have hwhole : ∀ c ∈ '/' :: path,
      c ≠ '#' ∧ c ≠ '?' ∧ (if isSlash c = true then '/' else c) = c := by
    intro c hc
    rcases List.mem_cons.mp hc with rfl | hc
    · decide
    · have hends := (hpath c hc).2
      simp only [List.mem_cons, List.not_mem_nil, or_false, not_or] at hends
      obtain ⟨hquestion, hnumber, hbackslash⟩ := hends
      refine ⟨hnumber, hquestion, ?_⟩
      -- the only slash that is left is the one that slashes are read as
      split
      next hslash =>
        rw [isSlash, Bool.or_eq_true, beq_iff_eq, beq_iff_eq] at hslash
        exact (hslash.resolve_right hbackslash).symm
      next => rfl
  have hnumber : ('/' :: path).takeWhile (· != '#') = '/' :: path :=
    List.takeWhile_eq_self_iff.mpr fun c hc => by simpa using (hwhole c hc).1
  have hquestion : ∀ c ∈ '/' :: path, (c != '?') = true :=
    fun c hc => by simpa using (hwhole c hc).2.1
  have hslashes : ('/' :: path).map (fun c => if isSlash c = true then '/' else c) = '/' :: path :=
    (List.map_congr_left fun c hc => (hwhole c hc).2.2).trans (List.map_id _)
  obtain ⟨htake, hdrop⟩ := hhost.split path
  simp only [parse?, hurl, hhost.behindScheme?, Option.bind_eq_bind, Option.bind_some, htake, hdrop,
    hnumber, hslashes, hhost.hostOf_eq, List.takeWhile_eq_self_iff.mpr hquestion,
    List.dropWhile_eq_nil_iff.mpr hquestion]
  rw [if_pos hhost.isHost]
  simp [sentQuery]

theorem mem_of_mem_intercalate {separator : List Char} {parts : List (List Char)} {c : Char}
    (h : c ∈ separator.intercalate parts) : c ∈ separator ∨ ∃ part ∈ parts, c ∈ part := by
  induction parts with
  | nil => simp [List.intercalate] at h
  | cons part rest ih =>
    cases rest with
    | nil => exact Or.inr ⟨part, List.mem_cons_self .., by simpa [List.intercalate] using h⟩
    | cons next rest =>
      rw [List.intercalate_cons_cons, List.mem_append, List.mem_append] at h
      rcases h with (h | h) | h
      · exact Or.inr ⟨part, List.mem_cons_self .., h⟩
      · exact Or.inl h
      · exact (ih h).imp_right fun ⟨other, hother, hc⟩ => ⟨other, List.mem_cons_of_mem _ hother, hc⟩

/-- Steps leave no other segments than those that were there, and perhaps an empty one. -/
theorem mem_of_mem_resolveFrom {passed rest : List String} {s : String}
    (h : s ∈ resolveFrom passed rest) : s = "" ∨ s ∈ passed ∨ s ∈ rest := by
  induction rest generalizing passed with
  | nil => exact Or.inr (Or.inl (List.mem_reverse.mp h))
  | cons first rest ih =>
    have hnext {next : List String} (hmem : ∀ t ∈ next, t = "" ∨ t ∈ passed ∨ t = first)
        (h : s ∈ resolveFrom next rest) : s = "" ∨ s ∈ passed ∨ s ∈ first :: rest := by
      rcases ih h with h | h | h
      · exact Or.inl h
      · rcases hmem s h with h | h | rfl
        · exact Or.inl h
        · exact Or.inr (Or.inl h)
        · exact Or.inr (Or.inr (List.mem_cons_self ..))
      · exact Or.inr (Or.inr (List.mem_cons_of_mem _ h))
    rw [resolveFrom] at h
    split at h
    · refine hnext (fun t ht => ?_) h
      split at ht
      · exact (List.mem_cons.mp ht).imp_right fun ht => Or.inl (List.mem_of_mem_tail ht)
      · exact Or.inr (Or.inl (List.mem_of_mem_tail ht))
    · split at h
      · refine hnext (fun t ht => ?_) h
        split at ht
        · exact (List.mem_cons.mp ht).imp_right Or.inl
        · exact Or.inr (Or.inl ht)
      · exact hnext (fun t ht => Or.inr (List.mem_cons.mp ht).symm) h

/-- The target of an address that is put together from a host and encoded segments. -/
theorem parse?_http {host : String} {segments : List String} (hhost : Host host)
    (hsegments : ∀ s ∈ segments, Encoded s.toList) (hne : segments ≠ []) :
    parse? ("http://" ++ host ++ "/" ++ "/".intercalate segments) =
      some ⟨host, "/" ++ "/".intercalate (resolve segments)⟩ := by
  have hslash : ∀ s ∈ segments, '/' ∉ s.toList := by
    intro s hs hmem
    simpa using (chars_of_encoded (hsegments s hs) '/' hmem).2.2
  have hpath : ∀ c ∈ ("/".intercalate segments).toList,
      0x20 < c.toNat ∧ c ∉ ['?', '#', '\\'] := by
    intro c hc
    rw [String.toList_intercalate] at hc
    rcases mem_of_mem_intercalate hc with hslash | ⟨part, hpart, hc⟩
    · obtain rfl := List.mem_singleton.mp hslash
      decide
    · obtain ⟨s, hs, rfl⟩ := List.mem_map.mp hpart
      obtain ⟨hlow, _, hforbidden⟩ := chars_of_encoded (hsegments s hs) c hc
      exact ⟨hlow, by simp_all⟩
  have hsplit :
      (Text.splitChars '/' ("/".intercalate segments).toList).map String.ofList = segments :=
    Text.split_intercalate hne hslash
  have hsent : (resolve segments).map sentSegment = resolve segments := by
    refine (List.map_congr_left fun s hs => sentSegment_eq_self ?_).trans (List.map_id _)
    rcases mem_of_mem_resolveFrom hs with rfl | h | h
    · exact .nil
    · cases h
    · exact hsegments s h
  have hparsed := parse?_of_path hhost hpath
  rwa [hsplit, hsent, String.ofList_toList] at hparsed

end Address

end SensorBoard
