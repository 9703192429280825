import Mathlib.Data.Finset.Card
import SensorBoard.Proofs.Sensor.Id

/-!
# Rules on top of rules

A table is made by adding one rule after the other. Adding a rule writes one entry, under the token
of the rule, and keeps the tokens in ascending order (`Kept`). So, however many rules are added, the
tokens of the table are those that it had and those of the added rules, and under a token stands the
last rule that was added for it (`find?_foldl_add`). With written rules on top of those that are
always there, a sensor has the last written rule of its type, and if there is none the one that is
always there (`lookup_last_written`).
-/

namespace SensorBoard.RuleTable

variable {table : RuleTable} {token : String} {id : SensorId} {rule : Rule}

/-- The tokens that a table has rules for. -/
def tokens (table : RuleTable) : List String := table.entries.map Prod.fst

/-- A table as it is kept: in ascending order of its tokens, with a rule for each. -/
structure Kept (table : RuleTable) : Prop where
  ascending : table.entries.Pairwise fun x y => x.1 < y.1
  typeId_eq : ∀ e ∈ table.entries, e.2.typeId = e.1

/-! ## One rule -/

theorem Kept.add (h : table.Kept) (rule : Rule) : (table.add rule).Kept where
  ascending := Keyed.pairwise_insert h.ascending
  typeId_eq := by
    intro e he
    rcases Keyed.mem_insert he with rfl | he
    · rfl
    · exact h.typeId_eq e he

theorem mem_tokens_add :
    token ∈ (table.add rule).tokens ↔ token = rule.typeId ∨ token ∈ table.tokens :=
  Keyed.mem_keys_insert

theorem find?_add (table : RuleTable) (rule : Rule) (token : String) :
    Keyed.find? token (table.add rule).entries =
      if rule.typeId = token then some rule else Keyed.find? token table.entries := by
  split
  next heq => rw [← heq]; exact Keyed.find?_insert_self ..
  next hne => exact Keyed.find?_insert_of_ne (Ne.symm hne) ..

/-! ## Many rules -/

theorem Kept.foldl_add (h : table.Kept) (added : List Rule) :
    (added.foldl RuleTable.add table).Kept := by
  induction added generalizing table with
  | nil => exact h
  | cons rule rest ih => exact ih (h.add rule)

theorem mem_tokens_foldl_add {added : List Rule} : token ∈ (added.foldl add table).tokens ↔
    token ∈ added.map Rule.typeId ∨ token ∈ table.tokens := by
  induction added generalizing table with
  | nil => simp
  | cons rule rest ih =>
    rw [List.foldl_cons, ih, mem_tokens_add, List.map_cons, List.mem_cons]
    tauto

/-- Under a token stands the last rule that was added for it; what was there before counts only if
there is none. -/
theorem find?_foldl_add (token : String) (added : List Rule) (table : RuleTable) :
    Keyed.find? token (added.foldl add table).entries =
      (added.filter (·.typeId = token)).getLast?.or (Keyed.find? token table.entries) := by
  induction added generalizing table with
  | nil => rfl
  | cons rule rest ih =>
    rw [List.foldl_cons, ih, find?_add]
    by_cases h : rule.typeId = token
    · -- the first rule makes way for the last of the others, if there is one for the token
      rw [if_pos h, List.filter_cons_of_pos (by simpa using h), List.getLast?_cons]
      cases (rest.filter (·.typeId = token)).getLast? <;> rfl
    · rw [if_neg h, List.filter_cons_of_neg (by simpa using h)]

theorem Kept.size_eq (h : table.Kept) : table.size = table.tokens.toFinset.card := by
  have hnodup : table.tokens.Nodup :=
    List.pairwise_map.mpr (h.ascending.imp fun hlt => ne_of_lt hlt)
  rw [List.toFinset_card_of_nodup hnodup, tokens, List.length_map, size]

/-! ## The rules that are always there -/

theorem kept_builtin : builtin.Kept := by
  have hempty : Kept ⟨[]⟩ := ⟨List.Pairwise.nil, List.forall_mem_nil _⟩
  exact hempty.foldl_add builtinRules

theorem lookup_builtin_eq_some_iff :
    builtin.lookup id = some rule ↔ rule ∈ builtinRules ∧ id.typeToken? = some rule.typeId := by
  have hnodup : ((builtinRules.map fun r => (r.typeId, r)).map Prod.fst).Nodup := by decide
  have hentries {token : String} :
      (token, rule) ∈ builtin.entries ↔ rule ∈ builtinRules ∧ rule.typeId = token := by
    have hperm : builtin.entries.Perm (builtinRules.map fun r => (r.typeId, r)) :=
      Keyed.perm_ofList hnodup
    rw [hperm.mem_iff]
    simp
  rw [lookup_eq_some_iff]
  constructor
  · rintro ⟨token, htoken, hfind⟩
    obtain ⟨hmem, rfl⟩ := hentries.mp (Keyed.mem_of_find? hfind)
    exact ⟨hmem, htoken⟩
  · rintro ⟨hmem, htoken⟩
    have hentry := hentries.mpr ⟨hmem, rfl⟩
    exact ⟨rule.typeId, htoken, Keyed.find?_of_mem kept_builtin.ascending hentry⟩

/-! ## Written rules -/

/-- The last of some written rules that is for a token. -/
def lastFor? (token : String) (overrides : List RuleText) : Option RuleText :=
  (overrides.filter (·.typeId = token)).getLast?

variable {overrides : List RuleText}

theorem withOverrides_eq (overrides : List RuleText) :
    withOverrides overrides = (overrides.map RuleText.rule).foldl add builtin := by
  rw [withOverrides, List.foldl_map]

theorem kept_withOverrides (overrides : List RuleText) : (withOverrides overrides).Kept := by
  rw [withOverrides_eq]
  exact kept_builtin.foldl_add _

theorem lookup_withOverrides (overrides : List RuleText) (id : SensorId) :
    (withOverrides overrides).lookup id =
      (id.typeToken?.bind fun token => (lastFor? token overrides).map RuleText.rule).or
        (builtin.lookup id) := by
  rw [lookup, lookup]
  cases id.typeToken? with
  | none => rfl
  | some token =>
    have hrules : (overrides.map RuleText.rule).filter (·.typeId = token) =
        (overrides.filter (·.typeId = token)).map RuleText.rule := List.filter_map
    rw [Option.bind_some, withOverrides_eq, find?_foldl_add, hrules, List.getLast?_map]
    rfl

theorem mem_tokens_withOverrides : token ∈ (withOverrides overrides).tokens ↔
    token ∈ builtinRules.map Rule.typeId ++ overrides.map RuleText.typeId := by
  have hbuiltin : token ∈ builtin.tokens ↔ token ∈ builtinRules.map Rule.typeId := by
    rw [builtin, mem_tokens_foldl_add]
    exact or_iff_left List.not_mem_nil
  have hwritten : (overrides.map RuleText.rule).map Rule.typeId = overrides.map RuleText.typeId :=
    List.map_map
  rw [withOverrides_eq, mem_tokens_foldl_add, hbuiltin, hwritten, List.mem_append]
  exact or_comm

theorem size_withOverrides (overrides : List RuleText) : (withOverrides overrides).size =
    (builtinRules.map Rule.typeId ++ overrides.map RuleText.typeId).toFinset.card := by
  rw [(kept_withOverrides overrides).size_eq]
  congr 1
  ext token
  rw [List.mem_toFinset, List.mem_toFinset, mem_tokens_withOverrides]

/-- The rule of a sensor is for the token of the sensor, which is not empty and has no dot. -/
theorem Kept.of_lookup (h : table.Kept) (hrule : table.lookup id = some rule) :
    id.typeToken? = some rule.typeId ∧ rule.typeId ≠ "" ∧ '.' ∉ rule.typeId.toList := by
  obtain ⟨token, htoken, hfind⟩ := lookup_eq_some_iff.mp hrule
  have htype : rule.typeId = token := h.typeId_eq _ (Keyed.mem_of_find? hfind)
  obtain ⟨_, _, _, _, hdot, hne, _⟩ := SensorId.typeToken?_eq_some_iff.mp htoken
  exact htype.symm ▸ ⟨htoken, hne, hdot⟩

/-- With written rules on top of the rules that are always there, a sensor has the last written rule
for its token, with the quantity that its word means; if none is written for the token, it has the
rule for it that is always there, if there is one. So no sensor without a token has a rule, and a
rule that is written for no token at all or for one with a dot is never found. There are as many
rules as there are different tokens to write them for, each stands under its own token, and written
rules may change places as long as those for one token keep their order. -/
theorem lookup_last_written (overrides : List RuleText) :
    (∀ id, (withOverrides overrides).lookup id =
      (id.typeToken?.bind fun token => (lastFor? token overrides).map fun text =>
        (⟨text.typeId, text.valueSuffix, text.units, .ofReported text.kind⟩ : Rule)).or
        (builtin.lookup id)) ∧
    (∀ id rule, builtin.lookup id = some rule ↔
      rule ∈ builtinRules ∧ id.typeToken? = some rule.typeId) ∧
    (∀ id rule, (withOverrides overrides).lookup id = some rule →
      id.typeToken? = some rule.typeId ∧ rule.typeId ≠ "" ∧ '.' ∉ rule.typeId.toList) ∧
    (withOverrides overrides).size =
      (builtinRules.map Rule.typeId ++ overrides.map RuleText.typeId).toFinset.card ∧
    (∀ e ∈ (withOverrides overrides).entries, e.2.typeId = e.1) ∧
    ∀ reordered : List RuleText,
      (∀ token, reordered.filter (·.typeId = token) = overrides.filter (·.typeId = token)) →
      ∀ id, (withOverrides reordered).lookup id = (withOverrides overrides).lookup id := by
  have hkept := kept_withOverrides overrides
  refine ⟨lookup_withOverrides overrides, fun id rule => lookup_builtin_eq_some_iff,
    fun id rule => hkept.of_lookup, size_withOverrides overrides, hkept.typeId_eq, ?_⟩
  intro reordered hsame id
  have hlast : ∀ token, lastFor? token reordered = lastFor? token overrides := by
    intro token
    rw [lastFor?, lastFor?, hsame]
  rw [lookup_withOverrides, lookup_withOverrides]
  simp only [hlast]

/-- A rule that is always there is replaced twice, and between the two stand rules that no sensor
can have. Of the two the later one is found, also if the others change places. -/
theorem lookup_last_written_replaced :
    let first : RuleText := ⟨"3303", ".5601", "celsius", "Temp "⟩
    let later : RuleText := ⟨"3303", ".5602", "watts", "light"⟩
    let nowhere : RuleText := ⟨"", ".1", "", ""⟩
    let dotted : RuleText := ⟨"3303.0", ".1", "", ""⟩
    let overrides := [first, nowhere, dotted, later]
    let reordered := [dotted, first, later, nowhere]
    let rule : Rule := ⟨"3303", ".5602", "watts", .bulb⟩
    (∀ token, reordered.filter (·.typeId = token) = overrides.filter (·.typeId = token)) ∧
      (withOverrides reordered).lookup ⟨".3303.0"⟩ = (withOverrides overrides).lookup ⟨".3303.0"⟩ ∧
      (withOverrides overrides).lookup ⟨".3303.0"⟩ = some rule ∧
      (SensorId.mk ".3303.0").typeToken? = some rule.typeId ∧ rule.typeId ≠ "" ∧
      (withOverrides overrides).lookup ⟨"..0"⟩ = none ∧ (withOverrides overrides).size = 5 ∧
      ("", nowhere.rule) ∈ (withOverrides overrides).entries ∧ nowhere.rule.typeId = "" := by
  intro first later nowhere dotted overrides reordered rule
  have hsame : ∀ token,
      reordered.filter (·.typeId = token) = overrides.filter (·.typeId = token) := by
    intro token
    by_cases hnone : token ∈ ["3303", "", "3303.0"]
    · simp only [List.mem_cons, List.not_mem_nil, or_false] at hnone
      rcases hnone with rfl | rfl | rfl <;> rfl
    · simp only [List.mem_cons, List.not_mem_nil, or_false, not_or] at hnone
      simp [overrides, reordered, first, later, nowhere, dotted, hnone, eq_comm]
  have hfound : (withOverrides overrides).lookup ⟨".3303.0"⟩ = some rule := by decide +kernel
  have hmem : ("", nowhere.rule) ∈ (withOverrides overrides).entries := by decide +kernel
  obtain ⟨_, _, htype, hsize, hstored, hreorder⟩ := lookup_last_written overrides
  obtain ⟨htoken, hne, _⟩ := htype ⟨".3303.0"⟩ rule hfound
  exact ⟨hsame, hreorder reordered hsame ⟨".3303.0"⟩, hfound, htoken, hne, by decide +kernel,
    hsize.trans (by decide +kernel), hmem, hstored _ hmem⟩

end SensorBoard.RuleTable
