import Audiophore.LastWriter
import Audiophore.MappingM1

/-!
# Which zones the mapping fills

The fold over the zone list is a run of a register file with one register for each zone
id. A strip writes the register of its id, every other zone writes nothing.
-/

namespace ZoneCoverage

open AudiophoreCore MappingM1

/-- The length of a zone that is a strip. -/
def stripCount (zone : Zone) : Option UInt32 :=
  match zone.kind, zone.size with
  | .pixelStrip, .strip count => some count
  | _, _ => none

theorem stripCount_eq_some_iff (zone : Zone) (count : UInt32) :
    stripCount zone = some count ↔ zone.kind = .pixelStrip ∧ zone.size = .strip count := by
  obtain ⟨id, kind, size⟩ := zone
  cases kind <;> cases size <;> simp [stripCount]

/-- The strips with a given id, by their lengths and in list order. -/
def stripsOf (id : ZoneId) (zones : List Zone) : List UInt32 :=
  zones.filterMap fun zone => if zone.id = id then stripCount zone else none

theorem mem_stripsOf_iff {id : ZoneId} {zones : List Zone} {count : UInt32} :
    count ∈ stripsOf id zones ↔
      ∃ zone ∈ zones, zone.id = id ∧ zone.kind = .pixelStrip ∧ zone.size = .strip count := by
  simp [stripsOf, stripCount_eq_some_iff]

/-- Among the strips with the id of a strip there is a last one. -/
theorem exists_last_strip {zone : Zone} {zones : List Zone} (hzone : zone ∈ zones)
    (hstrip : (stripCount zone).isSome = true) :
    ∃ count, (stripsOf zone.id zones).getLast? = some count := by
  obtain ⟨count, hcount⟩ := Option.isSome_iff_exists.mp hstrip
  obtain ⟨hkind, hsize⟩ := (stripCount_eq_some_iff zone count).mp hcount
  have hmem := mem_stripsOf_iff.mpr ⟨zone, hzone, rfl, hkind, hsize⟩
  exact Option.isSome_iff_exists.mp (List.getLast?_isSome.mpr (List.ne_nil_of_mem hmem))

variable (A : F32Arith) (audio : AudioFrame)

/-- What the mapping does with one zone. -/
def fill (payloads : ZoneMap) (zone : Zone) : ZoneMap :=
  match stripCount zone with
  | some count => payloads.insert zone.id (.pixels (buildStripPixels A audio count.toNat))
  | none => payloads

theorem zones_mapM1 (zones : List Zone) (tick : UInt64) :
    (mapM1 A audio zones tick).zones = zones.foldl (fill A audio) ∅ := by
  change zones.foldl _ ∅ = _
  congr 1
  funext payloads zone
  obtain ⟨id, kind, size⟩ := zone
  cases kind <;> cases size <;> rfl

/-- The zone table as a register file. -/
def slots : LastWriter.RegisterFile ZoneMap Zone ZoneId (Option ZonePayload) where
  get payloads id := payloads.lookup id
  apply := fill A audio
  writes zone := (stripCount zone).map fun count =>
    (zone.id, some (.pixels (buildStripPixels A audio count.toNat)))
  get_apply := by
    intro payloads zone id
    unfold fill
    cases stripCount zone with
    | none => rfl
    | some count =>
      by_cases hid : zone.id = id
      · subst hid
        simp
      · simp [hid, AList.lookup_insert_ne (Ne.symm hid)]

theorem writesTo_slots (id : ZoneId) (zones : List Zone) :
    (slots A audio).writesTo id zones = (stripsOf id zones).map fun count =>
      some (.pixels (buildStripPixels A audio count.toNat)) := by
  rw [stripsOf, List.map_filterMap]
  apply List.filterMap_congr
  intro zone _
  by_cases hid : zone.id = id
  · cases h : stripCount zone <;> simp [slots, hid, h]
  · cases h : stripCount zone <;> simp [slots, hid, h]

/-- A zone id is looked up in the last strip that carries it. -/
theorem lookup_mapM1 (zones : List Zone) (tick : UInt64) (id : ZoneId) :
    (mapM1 A audio zones tick).zones.lookup id = (stripsOf id zones).getLast?.map fun count =>
      .pixels (buildStripPixels A audio count.toNat) := by
  have h := (slots A audio).get_run ∅ zones id
  rw [LastWriter.RegisterFile.latest, writesTo_slots, List.getLast?_map] at h
  rw [zones_mapM1]
  change (slots A audio).get ((slots A audio).run ∅ zones) id = _
  rw [h]
  cases (stripsOf id zones).getLast? <;> rfl

/-! ## Which strips a frame covers -/

/-- Two hash maps with the same entries, in frames with the same tick and time. -/
structure SameFrame (left right : ResolvedFrame) : Prop where
  tick : left.tick = right.tick
  t : left.t = right.t
  zones : ∀ id, left.zones.lookup id = right.zones.lookup id

/-- Only the order among strips of one id matters. -/
theorem mapM1_of_same_strips {zones zones' : List Zone} (tick : UInt64)
    (same : ∀ id, stripsOf id zones = stripsOf id zones') :
    SameFrame (mapM1 A audio zones tick) (mapM1 A audio zones' tick) := by
  constructor
  · rfl
  · rfl
  · intro id
    rw [lookup_mapM1, lookup_mapM1, same]

theorem stripsOf_append (id : ZoneId) (zones zones' : List Zone) :
    stripsOf id (zones ++ zones') = stripsOf id zones ++ stripsOf id zones' :=
  List.filterMap_append

/-- A zone that is no strip takes no part. -/
theorem stripsOf_insert {zone : Zone} (h : stripCount zone = none) (id : ZoneId)
    (before after : List Zone) :
    stripsOf id (before ++ zone :: after) = stripsOf id (before ++ after) := by
  rw [stripsOf_append, stripsOf_append]
  simp [stripsOf, h]

/-- The strips with an id are the counts of the zones with that id that are strips. -/
theorem stripsOf_eq_filter (id : ZoneId) (zones : List Zone) :
    stripsOf id zones =
      (zones.filter fun zone => zone.id = id && (stripCount zone).isSome).filterMap stripCount := by
  rw [List.filterMap_filter]
  apply List.filterMap_congr
  intro zone _
  by_cases hid : zone.id = id
  · cases stripCount zone <;> simp [hid]
  · simp [hid]

/-- The table of a mapped frame: its keys are the ids of the strips, a key holds as many
pixels as the last of its strips asks for, all pixels are one colour, and zones that are
no strips, like the order among different ids, leave no trace. -/
theorem mapM1_covers_strips (zones : List Zone) (tick : UInt64) :
    (mapM1 A audio zones tick).tick = tick ∧
    (mapM1 A audio zones tick).t = audio.t ∧
    (∀ id, id ∈ (mapM1 A audio zones tick).zones ↔ ∃ zone ∈ zones, zone.id = id ∧
      zone.kind = .pixelStrip ∧ ∃ count, zone.size = .strip count) ∧
    (∃ pixel, ∀ id payload, (mapM1 A audio zones tick).zones.lookup id = some payload →
      ∃ count, (stripsOf id zones).getLast? = some count ∧
        payload = .pixels (List.replicate count.toNat pixel)) ∧
    (∀ before zone after, zones = before ++ zone :: after → stripCount zone = none →
      SameFrame (mapM1 A audio (before ++ after) tick) (mapM1 A audio zones tick)) ∧
    (∀ zones', (∀ id, (zones'.filter fun zone => zone.id = id && (stripCount zone).isSome) =
        zones.filter fun zone => zone.id = id && (stripCount zone).isSome) →
      SameFrame (mapM1 A audio zones' tick) (mapM1 A audio zones tick)) := by
  refine ⟨rfl, rfl, ?_, ?_, ?_, ?_⟩
  · intro id
    rw [← AList.lookup_isSome, lookup_mapM1, Option.isSome_map, List.getLast?_isSome]
    constructor
    · intro h
      obtain ⟨count, hcount⟩ := List.exists_mem_of_ne_nil _ h
      obtain ⟨zone, hzone, hid, hkind, hsize⟩ := mem_stripsOf_iff.mp hcount
      exact ⟨zone, hzone, hid, hkind, count, hsize⟩
    · rintro ⟨zone, hzone, hid, hkind, count, hsize⟩
      exact List.ne_nil_of_mem (mem_stripsOf_iff.mpr ⟨zone, hzone, hid, hkind, hsize⟩)
  · refine ⟨stripColour A audio, ?_⟩
    intro id payload h
    rw [lookup_mapM1, Option.map_eq_some_iff] at h
    obtain ⟨count, hcount, rfl⟩ := h
    exact ⟨count, hcount, rfl⟩
  · rintro before zone after rfl h
    apply mapM1_of_same_strips
    intro id
    exact (stripsOf_insert h id before after).symm
  · intro zones' same
    apply mapM1_of_same_strips
    intro id
    rw [stripsOf_eq_filter, stripsOf_eq_filter, same]

end ZoneCoverage
