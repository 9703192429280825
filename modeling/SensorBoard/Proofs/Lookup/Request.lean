import SensorBoard.Lookup.Remote
import SensorBoard.Proofs.Lookup.Address
import SensorBoard.Proofs.Lookup.Path
import SensorBoard.Proofs.Sensor.Id
import SensorBoard.Settings
import SensorBoard.Survey

/-!
# Requests and their devices

A request is sent to the path of its question, as long as no segment of the path is only a step.
The fixed words are no steps, and neither is the resource of a sensor with a rule, because the token
of the sensor is part of it (`resourceFor_notMem`). But a device may have any name that is listed.
If it is a dot or two dots, the request for it leaves the device out, and with two dots even the
word in front of it (`stays_below_device_iff`).
-/

namespace SensorBoard

open Text.Percent

/-- What cannot be the name of a place: nothing at all, and the two steps. -/
def noPlaces : List String := ["", ".", ".."]

/-! ## Segments of a question -/

namespace Lookup

variable {lookup : Lookup} {device resource : String}

/-- What the segments of a question stand for. -/
def names : Lookup → List String
  | devices => ["devices", "list"]
  | sensors device => ["devices", device, "sensors", "list"]
  | value device resource => ["devices", device, "sensors", resource, "value"]
  | history device resource => ["devices", device, "sensors", resource, "stat"]

/-- The fixed words are encoded as they are. -/
theorem segments_eq_map (lookup : Lookup) : lookup.segments = lookup.names.map encode := by
  have hwords : ["devices", "sensors", "list", "value", "stat"].map encode =
      ["devices", "sensors", "list", "value", "stat"] := by decide +kernel
  simp only [List.map_cons, List.map_nil, List.cons.injEq, and_true] at hwords
  obtain ⟨hdevices, hsensors, hlist, hvalue, hstat⟩ := hwords
  cases lookup <;> simp [segments, names, hdevices, hsensors, hlist, hvalue, hstat]

theorem encoded_segments (lookup : Lookup) : ∀ s ∈ lookup.segments, Encoded s.toList := by
  rw [segments_eq_map]
  exact List.forall_mem_map.mpr fun name _ => encoded_encode name

/-- The questions about a device, and about one of its resources. -/
def about (device resource : String) : List Lookup :=
  [.sensors device, .value device resource, .history device resource]

/-- Behind the device stand fixed words, and the resource if the question is about it. -/
theorem names_about (h : lookup ∈ about device resource) : ∃ behind,
    lookup.names = "devices" :: device :: behind ∧ behind ≠ [] ∧
      ∀ name ∈ behind, name ∈ [resource, "sensors", "list", "value", "stat"] := by
  simp only [about, List.mem_cons, List.not_mem_nil, or_false] at h
  rcases h with rfl | rfl | rfl
  · exact ⟨["sensors", "list"], rfl, by simp⟩
  · exact ⟨["sensors", resource, "value"], rfl, by simp⟩
  · exact ⟨["sensors", resource, "stat"], rfl, by simp⟩

end Lookup

theorem encode_mem_noPlaces_iff {name : String} : encode name ∈ noPlaces ↔ name ∈ noPlaces := by
  have hmap : noPlaces.map encode = noPlaces := by decide +kernel
  have hmem := List.mem_map_of_injective encode_injective (a := name) (l := noPlaces)
  rwa [hmap] at hmem

/-- The token of a sensor with a rule is part of the resource. -/
theorem RuleTable.resourceFor_notMem {rules : RuleTable} {id : SensorId} {rule : Rule}
    (h : rules.lookup id = some rule) : rule.resourceFor id ∉ noPlaces := by
  obtain ⟨token, htoken, _⟩ := lookup_eq_some_iff.mp h
  obtain ⟨device, tail, hraw, _, hdot, hne, _⟩ := SensorId.typeToken?_eq_some_iff.mp htoken
  obtain ⟨c, cs, hcs⟩ := List.exists_cons_of_ne_nil (mt String.toList_eq_nil_iff.mp hne)
  have hc : c ∈ (rule.resourceFor id).toList := by simp [Rule.resourceFor, hraw, hcs]
  intro hmem
  have hdots : ∀ name ∈ noPlaces, name.toList.all (· == '.') = true := by decide
  rw [beq_iff_eq.mp (List.all_eq_true.mp (hdots _ hmem) c hc)] at hcs
  exact hdot (hcs ▸ List.mem_cons_self ..)

/-! ## The address of a request -/

namespace Remote

open Address (Settled)

/-- The base address of a server is put together from its host and the segments that stand in front
of every path. -/
structure IsAt (r : Remote) (host : String) (front : List String) : Prop where
  base_eq : r.base = "http://" ++ host ++ "/" ++ String.join (front.map (· ++ "/"))
  host : Address.Host host
  front : ∀ s ∈ front, Settled s

variable {r : Remote} {host : String} {front : List String}

theorem join_append_intercalate {segments : List String} (hne : segments ≠ []) :
    String.join (front.map (· ++ "/")) ++ "/".intercalate segments =
      "/".intercalate (front ++ segments) := by
  induction front with
  | nil => simp
  | cons s rest ih =>
    obtain ⟨next, behind, hcons⟩ :=
      List.exists_cons_of_ne_nil (List.append_ne_nil_of_right_ne_nil rest hne)
    rw [List.map_cons, String.join_cons, String.append_assoc, ih, List.cons_append, hcons]
    simp

theorem IsAt.url_eq (h : r.IsAt host front) (lookup : Lookup) : r.url lookup =
    "http://" ++ host ++ "/" ++ "/".intercalate (front ++ lookup.segments) := by
  rw [url, h.base_eq, Lookup.path, String.append_assoc,
    join_append_intercalate lookup.segments_ne_nil]

/-- A request is sent to the path of its question behind the base address, with the steps on the way
made. -/
theorem IsAt.address (h : r.IsAt host front) (lookup : Lookup) :
    Address.parse? (r.url lookup) =
      some ⟨host, "/" ++ "/".intercalate (Address.resolve (front ++ lookup.segments))⟩ := by
  have hencoded : ∀ s ∈ front ++ lookup.segments, Encoded s.toList :=
    List.forall_mem_append.mpr ⟨fun s hs => (h.front s hs).encoded, lookup.encoded_segments⟩
  rw [h.url_eq]
  exact Address.parse?_http h.host hencoded
    (List.append_ne_nil_of_right_ne_nil front lookup.segments_ne_nil)

end Remote

/-! ## The main statement -/

namespace Lookup

open Address (Settled resolve)

variable {lookup : Lookup} {device resource : String} {front : List String}

theorem settled_encode_of_notMem {name : String} (h : name ∉ noPlaces) : Settled (encode name) := by
  simp only [noPlaces, List.mem_cons, List.not_mem_nil, or_false, not_or] at h
  exact Address.settled_encode h.2.1 h.2.2

/-- The names behind the device are places, if the resource is one. -/
theorem notMem_of_behind (hresource : resource ∉ noPlaces) {name : String}
    (h : name ∈ [resource, "sensors", "list", "value", "stat"]) : name ∉ noPlaces := by
  have hwords : ∀ word ∈ ["sensors", "list", "value", "stat"], word ∉ noPlaces := by decide
  rcases List.mem_cons.mp h with rfl | h
  · exact hresource
  · exact hwords name h

theorem segments_places_iff (h : lookup ∈ about device resource) (hresource : resource ∉ noPlaces) :
    (∀ s ∈ lookup.segments, s ∉ noPlaces) ↔ device ∉ noPlaces := by
  obtain ⟨behind, hnames, _, hbehind⟩ := names_about h
  have hword : "devices" ∉ noPlaces := by decide
  have hplaces : ∀ name ∈ behind, encode name ∉ noPlaces := by
    intro name hname
    rw [encode_mem_noPlaces_iff]
    exact notMem_of_behind hresource (hbehind name hname)
  rw [segments_eq_map, List.forall_mem_map, hnames, List.forall_mem_cons, List.forall_mem_cons,
    encode_mem_noPlaces_iff, encode_mem_noPlaces_iff]
  exact ⟨fun hall => hall.2.1, fun hdevice => ⟨hword, hdevice, hplaces⟩⟩

/-- What is left of the segments of a question when the steps are made. -/
theorem resolve_segments (h : lookup ∈ about device resource) (hresource : resource ∉ noPlaces)
    (hfront : ∀ s ∈ front, Settled s) : resolve (front ++ lookup.segments) =
      if device = "." then front ++ "devices" :: lookup.segments.drop 2
      else if device = ".." then front ++ lookup.segments.drop 2 else front ++ lookup.segments := by
  obtain ⟨behind, hnames, hne, hbehind⟩ := names_about h
  have hword : encode "devices" = "devices" := by decide +kernel
  have hsegments : lookup.segments = "devices" :: encode device :: behind.map encode := by
    rw [segments_eq_map, hnames, List.map_cons, List.map_cons, hword]
  have hdevices : Settled "devices" :=
    hword ▸ settled_encode_of_notMem (by decide : "devices" ∉ noPlaces)
  have hsettled : ∀ s ∈ behind.map encode, Settled s := List.forall_mem_map.mpr fun name hname =>
    settled_encode_of_notMem (notMem_of_behind hresource (hbehind name hname))
  have hnonempty : behind.map encode ≠ [] := mt List.map_eq_nil_iff.mp hne
  rw [hsegments, List.drop_succ_cons, List.drop_succ_cons, List.drop_zero]
  split
  next hdot =>
    have hstep : encode device = "." := by rw [hdot]; decide +kernel
    have hpassed : ∀ s ∈ front ++ ["devices"], Settled s :=
      List.forall_mem_append.mpr ⟨hfront, List.forall_mem_singleton.mpr hdevices⟩
    rw [hstep, List.append_cons, Address.resolve_singleDot hpassed hsettled hnonempty,
      ← List.append_cons]
  next hdot =>
    split
    next hdots =>
      have hstep : encode device = ".." := by rw [hdots]; decide +kernel
      rw [hstep, Address.resolve_doubleDot hfront hdevices hsettled hnonempty]
    next hdots =>
      refine Address.resolve_of_settled (List.forall_mem_append.mpr ⟨hfront, ?_⟩)
      exact List.forall_mem_cons.mpr
        ⟨hdevices, List.forall_mem_cons.mpr ⟨Address.settled_encode hdot hdots, hsettled⟩⟩

theorem resolve_segments_eq_iff (h : lookup ∈ about device resource)
    (hresource : resource ∉ noPlaces) :
    resolve lookup.segments = lookup.segments ↔ device ≠ "." ∧ device ≠ ".." := by
  have hnone : ∀ s ∈ ([] : List String), Settled s := List.forall_mem_nil _
  have hresolve := resolve_segments h hresource hnone
  simp only [List.nil_append] at hresolve
  have hlength : 2 ≤ lookup.segments.length := by
    obtain ⟨behind, hnames, _⟩ := names_about h
    rw [segments_eq_map, hnames, List.length_map, List.length_cons, List.length_cons]
    omega
  -- whenever a step is made, there are fewer segments
  rw [hresolve]
  split
  next hdot =>
    refine iff_of_false (fun heq => ?_) fun hdevice => hdevice.1 hdot
    have hlengths := congrArg List.length heq
    rw [List.length_cons, List.length_drop] at hlengths
    omega
  next hdot =>
    split
    next hdots =>
      refine iff_of_false (fun heq => ?_) fun hdevice => hdevice.2 hdots
      have hlengths := congrArg List.length heq
      rw [List.length_drop] at hlengths
      omega
    next hdots => exact iff_of_true rfl ⟨hdot, hdots⟩

/-- The path of a question about a device and a resource of a sensor with a rule has a place for
every name in it, except if the name of the device is empty or a step. If it is a step, and only
then, the path is not left as it is. A request goes to the path of its question behind the base
address; but if the name of the device is a dot, its segment is left out, and if it is two dots, the
word in front of it is left out as well. -/
theorem stays_below_device_iff {rules : RuleTable} {id : SensorId} {rule : Rule}
    (hrule : rules.lookup id = some rule) (device : String) :
    ∀ lookup ∈ about device (rule.resourceFor id),
      ((∀ s ∈ Text.split '/' lookup.path, s ∉ ["", ".", ".."]) ↔ device ∉ ["", ".", ".."]) ∧
      (resolve (Text.split '/' lookup.path) = Text.split '/' lookup.path ↔
        device ≠ "." ∧ device ≠ "..") ∧
      ∀ (r : Remote) (host : String) (front : List String), r.IsAt host front →
        Address.parse? (r.url lookup) = some ⟨host, "/" ++ "/".intercalate
          (if device = "." then front ++ "devices" :: lookup.segments.drop 2
          else if device = ".." then front ++ lookup.segments.drop 2
          else front ++ lookup.segments)⟩ := by
  intro lookup hlookup
  have hresource := RuleTable.resourceFor_notMem hrule
  rw [split_path]
  refine ⟨segments_places_iff hlookup hresource, resolve_segments_eq_iff hlookup hresource, ?_⟩
  intro r host front hbase
  rw [hbase.address, resolve_segments hlookup hresource hbase.front]

/-- A device whose name is three dots is a place like any other; one whose name is two dots is
asked for at an address without it. -/
theorem stays_below_device_iff_dots :
    let rule : Rule := ⟨"3303", ".5700", "celsius", .temperature⟩
    let r := Remote.ofBase Settings.default.baseUrl
    let host := "127.0.0.1:8888"
    RuleTable.builtin.lookup ⟨".3303.0"⟩ = some rule ∧ r.IsAt host [] ∧
      .value "..." ".3303.0.5700" ∈ about "..." (rule.resourceFor ⟨".3303.0"⟩) ∧
      Address.parse? (r.url (.value "..." ".3303.0.5700")) =
        some ⟨host, "/devices/.../sensors/.3303.0.5700/value"⟩ ∧
      .sensors ".." ∈ about ".." (rule.resourceFor ⟨".3303.0"⟩) ∧
      Address.parse? (r.url (.sensors "..")) = some ⟨host, "/sensors/list"⟩ := by
  intro rule r host
  have hrule : RuleTable.builtin.lookup ⟨".3303.0"⟩ = some rule := by decide +kernel
  have hhost : Address.Host host :=
    ⟨by decide +kernel, List.all_iff_forall_prop.mp (by decide +kernel)⟩
  have hbase : r.IsAt host [] := ⟨by decide +kernel, hhost, List.forall_mem_nil _⟩
  have hthree : .value "..." ".3303.0.5700" ∈ about "..." (rule.resourceFor ⟨".3303.0"⟩) := by
    decide +kernel
  have htwo : .sensors ".." ∈ about ".." (rule.resourceFor ⟨".3303.0"⟩) := by decide +kernel
  obtain ⟨_, _, hvalue⟩ := stays_below_device_iff hrule "..." _ hthree
  obtain ⟨_, _, hsensors⟩ := stays_below_device_iff hrule ".." _ htwo
  refine ⟨hrule, hbase, hthree, (hvalue r host [] hbase).trans ?_, htwo,
    (hsensors r host [] hbase).trans ?_⟩ <;> decide +kernel

/-- A server with a device whose name is two dots. -/
def upstairs : Gateway where
  devices := .ok ["..", "porch"]
  sensors _ := .ok [".3303.0"]
  value _ _ := .ok ⟨none, .number 20.0⟩
  history _ _ := .ok []

/-- Not every device that is found by a survey is asked for below its own name. -/
theorem not_forall_stays_below_device :
    ¬∀ (gateway : Gateway) (devices : List String) (rules : RuleTable) (id : SensorId)
        (rule : Rule),
      (Survey.discover gateway).result = .ok devices → rules.lookup id = some rule →
      ∀ device ∈ devices, ∀ lookup ∈ about device (rule.resourceFor id),
        (∀ s ∈ Text.split '/' lookup.path, s ∉ ["", ".", ".."]) ∧
        resolve (Text.split '/' lookup.path) = Text.split '/' lookup.path := by
  intro h
  have hdevices : (Survey.discover upstairs).result = .ok ["..", "porch"] := rfl
  have hrule : RuleTable.builtin.lookup ⟨".3303.0"⟩ =
      some ⟨"3303", ".5700", "celsius", .temperature⟩ := by decide +kernel
  have hsplit : Text.split '/' (sensors "..").path = ["devices", "..", "sensors", "list"] :=
    split_path (.sensors "..")
  have hstays := h upstairs _ _ _ _ hdevices hrule ".." (List.mem_cons_self ..) (.sensors "..")
    (List.mem_cons_self ..)
  rw [hsplit] at hstays
  exact hstays.1 ".." (by simp) (by simp)

end Lookup

end SensorBoard
