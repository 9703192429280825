import SensorBoard.Lookup.Basic
import SensorBoard.Proofs.Text.Percent
import SensorBoard.Text.Split

/-!
# Paths of lookups

A path is cut at its slashes into the fixed words of its question and one segment for each name in
the question. Whatever the name is, its segment holds no character that would cut it once more, and
decoding the segment gives the name back (`path_read_back`). So a path belongs to one question only.
-/

namespace SensorBoard.Lookup

open Text.Percent

theorem segments_ne_nil (lookup : Lookup) : lookup.segments ≠ [] := by
  cases lookup <;> exact List.cons_ne_nil _ _

theorem slash_notMem_segments (lookup : Lookup) : ∀ s ∈ lookup.segments, '/' ∉ s.toList := by
  cases lookup <;> simp [segments, slash_notMem_encode]

theorem split_path (lookup : Lookup) : Text.split '/' lookup.path = lookup.segments :=
  Text.split_intercalate lookup.segments_ne_nil (slash_notMem_segments lookup)

theorem segments_injective : Function.Injective segments := by
  intro lookup lookup' h
  -- questions of two kinds differ in the number of their segments or in the last one
  cases lookup <;> cases lookup' <;> simp_all [segments, encode_injective.eq_iff]

theorem path_injective : Function.Injective path := by
  intro lookup lookup' h
  apply segments_injective
  rw [← split_path, ← split_path, h]

/-- Every path is cut at its slashes into the words of its question and a segment for each name; a
segment is made of plain characters and escapes, and is decoded to the bytes of its name. No two
questions have one path. -/
theorem path_read_back :
    (∀ device resource : String,
      Text.split '/' devices.path = ["devices", "list"] ∧
      Text.split '/' (sensors device).path = ["devices", encode device, "sensors", "list"] ∧
      Text.split '/' (value device resource).path =
        ["devices", encode device, "sensors", encode resource, "value"] ∧
      Text.split '/' (history device resource).path =
        ["devices", encode device, "sensors", encode resource, "stat"]) ∧
    (∀ name : String,
      Encoded (encode name).toList ∧ decodeBytes (encode name).toList = utf8 name ∧
        decode? (encode name) = some name) ∧
    ∀ lookup lookup' : Lookup, lookup.path = lookup'.path ↔ lookup = lookup' := by
  refine ⟨fun device resource => ⟨?_, ?_, ?_, ?_⟩, fun name => ?_, fun _ _ => path_injective.eq_iff⟩
  · exact split_path .devices
  · exact split_path (.sensors device)
  · exact split_path (.value device resource)
  · exact split_path (.history device resource)
  · exact ⟨encoded_encode name, decodeBytes_encode name, decode?_encode name⟩

example : (history "my node/1" "50%é").path = "devices/my%20node%2F1/sensors/50%25%C3%A9/stat" := by
  decide +kernel

end SensorBoard.Lookup
