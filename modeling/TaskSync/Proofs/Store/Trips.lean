import TaskSync.Proofs.Store.Rows

/-!
# What a trip through a row costs

Instants are counted in nanoseconds since 1970, backwards before. A trip through a row takes each
time of a record down to the millisecond and leaves the rest of it alone, so that the length of the
run is wrong by less than a millisecond, and a second trip costs nothing.
-/

namespace TaskSync

namespace Timestamp

/-- An instant in range that does not lie in a leap second. -/
structure Regular (t : Timestamp) : Prop where
  second : inRange t.second = true
  nano : t.nano < nanosPerSecond

instance (t : Timestamp) : Decidable t.Regular :=
  decidable_of_iff (inRange t.second = true ∧ t.nano < nanosPerSecond)
    ⟨fun h => ⟨h.1, h.2⟩, fun h => ⟨h.1, h.2⟩⟩

/-- Nanoseconds since 1970. -/
def sinceEpoch (t : Timestamp) : Int := t.second * nanosPerSecond + t.nano

/-- The instant so many nanoseconds after 1970. -/
def ofSinceEpoch (ns : Int) : Timestamp :=
  ⟨ns / nanosPerSecond, (ns % nanosPerSecond).toNat⟩

/-- The last whole millisecond that is not behind the instant, before 1970 too. -/
def floor (t : Timestamp) : Timestamp := ofSinceEpoch (t.sinceEpoch / 10 ^ 6 * 10 ^ 6)

variable {t start stop : Timestamp}

theorem Regular.valid (regular : t.Regular) : t.Valid where
  second := regular.second
  nano := by
    have := regular.nano
    omega

/-- Milliseconds of instants in range fit into 64 bits. -/
theorem Regular.millis_fits (regular : t.Regular) : -2 ^ 63 ≤ t.millis ∧ t.millis < 2 ^ 63 := by
  have first : (⟨minYear, 1, 1⟩ : Date).toDays = -96465292 := by decide
  have last : (⟨maxYear + 1, 1, 1⟩ : Date).toDays = 95026237 := by decide
  have second := regular.second
  have nano := regular.nano
  rw [inRange, first, last, decide_eq_true_eq] at second
  unfold nanosPerSecond at nano
  unfold millis
  omega

theorem sinceEpoch_ofSinceEpoch (ns : Int) : (ofSinceEpoch ns).sinceEpoch = ns := by
  simp only [sinceEpoch, ofSinceEpoch, nanosPerSecond]
  omega

theorem Regular.ofSinceEpoch_sinceEpoch (regular : t.Regular) : ofSinceEpoch t.sinceEpoch = t := by
  have nano := regular.nano
  obtain ⟨second, n⟩ := t
  simp only [nanosPerSecond] at nano
  simp only [ofSinceEpoch, sinceEpoch, nanosPerSecond, mk.injEq]
  omega

theorem sinceEpoch_floor (t : Timestamp) : t.floor.sinceEpoch = t.sinceEpoch / 10 ^ 6 * 10 ^ 6 :=
  sinceEpoch_ofSinceEpoch _

theorem Regular.floor_eq (regular : t.Regular) :
    t.floor = ⟨t.second, t.nano / 10 ^ 6 * 10 ^ 6⟩ := by
  have nano := regular.nano
  simp only [floor, ofSinceEpoch, sinceEpoch, mk.injEq]
  unfold nanosPerSecond at nano ⊢
  omega

theorem Regular.floored? (regular : t.Regular) : t.floored? = some t.floor := by
  have nano := regular.nano
  have early : ¬ t.IsLast := fun last => by
    have := last.2
    omega
  rw [Timestamp.floored?, if_neg early, regular.floor_eq, Nat.div_eq_of_lt nano,
    Nat.mod_eq_of_lt nano, Int.natCast_zero, Int.add_zero]

/-- Flooring stays in the same second. -/
theorem Regular.floor (regular : t.Regular) : t.floor.Regular := by
  rw [regular.floor_eq]
  refine ⟨regular.second, Nat.lt_of_le_of_lt ?_ regular.nano⟩
  exact Nat.div_mul_le_self t.nano (10 ^ 6)

theorem Regular.millis_floor (regular : t.Regular) : t.floor.millis = t.millis := by
  rw [regular.floor_eq, millis, millis, Nat.mul_div_cancel _ (by decide)]

/-- Nothing is cut off from whole milliseconds, and from nothing else. -/
theorem Regular.floor_eq_self (regular : t.Regular) :
    t.floor = t ↔ (10 ^ 6 : Int) ∣ t.sinceEpoch := by
  constructor
  · intro same
    have floored := sinceEpoch_floor t
    rw [same] at floored
    exact ⟨t.sinceEpoch / 10 ^ 6, floored.trans (Int.mul_comm _ _)⟩
  · intro whole
    rw [Timestamp.floor, Int.ediv_mul_cancel whole, regular.ofSinceEpoch_sinceEpoch]

/-- Leap seconds aside, time passes evenly. -/
theorem Regular.nanosBetween (first : start.Regular) (last : stop.Regular) :
    start.nanosBetween stop = stop.sinceEpoch - start.sinceEpoch := by
  have early := Nat.not_le_of_lt first.nano
  have late := Nat.not_le_of_lt last.nano
  simp only [Timestamp.nanosBetween, if_neg early, if_neg late, ite_self]
  simp only [sinceEpoch, nanosPerSecond]
  omega

/-- Flooring keeps the order of two instants, and their distance up to a millisecond. -/
theorem floor_distance (ordered : start.sinceEpoch ≤ stop.sinceEpoch) :
    0 ≤ stop.floor.sinceEpoch - start.floor.sinceEpoch ∧
      (stop.floor.sinceEpoch - start.floor.sinceEpoch
        - (stop.sinceEpoch - start.sinceEpoch)).natAbs < 10 ^ 6 := by
  rw [sinceEpoch_floor, sinceEpoch_floor]
  omega

end Timestamp

namespace RunRecord

/-- The times are in range and not in leap seconds. -/
structure Regular (r : RunRecord) : Prop where
  startTime : ∀ t ∈ r.startTime, t.Regular
  endTime : ∀ t ∈ r.endTime, t.Regular

instance (r : RunRecord) : Decidable r.Regular :=
  decidable_of_iff ((∀ t ∈ r.startTime, t.Regular) ∧ ∀ t ∈ r.endTime, t.Regular)
    ⟨fun h => ⟨h.1, h.2⟩, fun h => ⟨h.1, h.2⟩⟩

/-- The times are whole milliseconds. -/
structure Whole (r : RunRecord) : Prop where
  startTime : ∀ t ∈ r.startTime, (10 ^ 6 : Int) ∣ t.sinceEpoch
  endTime : ∀ t ∈ r.endTime, (10 ^ 6 : Int) ∣ t.sinceEpoch

/-- The record with each time that is set floored to the millisecond. -/
def floor (r : RunRecord) : RunRecord :=
  { r with
    startTime := r.startTime.map Timestamp.floor
    endTime := r.endTime.map Timestamp.floor }

variable {r : RunRecord}

theorem Regular.timely (regular : r.Regular) : r.Timely where
  startTime t set := (regular.startTime t set).valid
  endTime t set := (regular.endTime t set).valid

theorem Regular.floored (regular : r.Regular) : r.floored = r.floor := by
  have time : ∀ {t : Option Timestamp}, (∀ x ∈ t, x.Regular) →
      t.bind Timestamp.floored? = t.map Timestamp.floor := by
    intro t each
    rw [Option.map_eq_bind]
    exact Option.bind_congr fun x here => (each x here).floored?
  rw [RunRecord.floored, time regular.startTime, time regular.endTime, RunRecord.floor]

theorem Regular.floor_eq_self (regular : r.Regular) : r.floor = r ↔ r.Whole := by
  have time : ∀ {t : Option Timestamp}, (∀ x ∈ t, x.Regular) →
      (t.map Timestamp.floor = t ↔ ∀ x ∈ t, (10 ^ 6 : Int) ∣ x.sinceEpoch) := by
    intro t each
    cases t with
    | none => simp
    | some x => simp [(each x rfl).floor_eq_self]
  have parts : r.floor = r ↔
      r.startTime.map Timestamp.floor = r.startTime ∧
        r.endTime.map Timestamp.floor = r.endTime := by
    obtain ⟨id, taskName, success, startTime, endTime, error, origin⟩ := r
    simp [RunRecord.floor]
  rw [parts, time regular.startTime, time regular.endTime]
  exact ⟨fun h => ⟨h.1, h.2⟩, fun h => ⟨h.1, h.2⟩⟩

end RunRecord

namespace RunRow

/-- The times fit into columns of 64 bits. -/
structure Fits (row : RunRow) : Prop where
  startTime : ∀ ms ∈ row.startTime, -2 ^ 63 ≤ ms ∧ ms < 2 ^ 63
  endTime : ∀ ms ∈ row.endTime, -2 ^ 63 ≤ ms ∧ ms < 2 ^ 63

variable {r : RunRecord}

theorem fits_ofRecord (regular : r.Regular) : (ofRecord r).Fits where
  startTime ms set := by
    obtain ⟨t, here, rfl⟩ := Option.map_eq_some_iff.mp set
    exact (regular.startTime t here).millis_fits
  endTime ms set := by
    obtain ⟨t, here, rfl⟩ := Option.map_eq_some_iff.mp set
    exact (regular.endTime t here).millis_fits

theorem toRecord_regular (regular : r.Regular) : (ofRecord r).toRecord = .ok r.floor := by
  rw [toRecord_ofRecord regular.timely, regular.floored]

/-- What is cut off from a time does not show in the row. -/
theorem ofRecord_floor (regular : r.Regular) : ofRecord r.floor = ofRecord r := by
  have time : ∀ {t : Option Timestamp}, (∀ x ∈ t, x.Regular) →
      (t.map Timestamp.floor).map Timestamp.millis = t.map Timestamp.millis := by
    intro t each
    rw [Option.map_map]
    exact Option.map_congr fun x here => (each x here).millis_floor
  simp only [ofRecord, RunRecord.floor, time regular.startTime, time regular.endTime]

theorem nanos_floor (regular : r.Regular) {start stop : Timestamp}
    (started : start ∈ r.startTime) (ended : stop ∈ r.endTime)
    (ordered : start.sinceEpoch ≤ stop.sinceEpoch) :
    ∃ d stored, r.nanos? = some d ∧ r.floor.nanos? = some stored ∧
      0 ≤ stored ∧ (stored - d).natAbs < 10 ^ 6 := by
  have first := regular.startTime start started
  have last := regular.endTime stop ended
  have taken : r.nanos? = some (stop.sinceEpoch - start.sinceEpoch) := by
    rw [RunRecord.nanos?, started, ended, ← first.nanosBetween last]
  have floored : r.floor.nanos? = some (stop.floor.sinceEpoch - start.floor.sinceEpoch) := by
    rw [RunRecord.nanos?, RunRecord.floor, started, ended, ← first.floor.nanosBetween last.floor]
    rfl
  obtain ⟨forward, close⟩ := Timestamp.floor_distance ordered
  exact ⟨_, _, taken, floored, forward, close⟩

/-- A record comes back from its row with each time that is set floored to the millisecond, and with
everything else as it was. The row of what came back is the same row, so another trip changes
nothing; the first one changes nothing just when the times are whole milliseconds. A run that ends
no earlier than it starts still does so, and its length is wrong by less than a millisecond. -/
theorem comes_back_floored {r : RunRecord} (regular : r.Regular) :
    (ofRecord r).Fits ∧ (ofRecord r).toRecord = .ok r.floor ∧
      (ofRecord r.floor = ofRecord r ∧ (ofRecord r.floor).toRecord = .ok r.floor) ∧
      ((ofRecord r).toRecord = .ok r ↔ r.Whole) ∧
      ∀ start ∈ r.startTime, ∀ stop ∈ r.endTime, start.sinceEpoch ≤ stop.sinceEpoch →
        ∃ d stored, r.nanos? = some d ∧ r.floor.nanos? = some stored ∧
          0 ≤ stored ∧ (stored - d).natAbs < 10 ^ 6 := by
  have back := toRecord_regular regular
  have same := ofRecord_floor regular
  refine ⟨fits_ofRecord regular, back, ⟨same, same ▸ back⟩, ?_, ?_⟩
  · rw [back, Except.ok.injEq, regular.floor_eq_self]
  · intro start started stop ended ordered
    exact nanos_floor regular started ended ordered

/-- A run across the start of 1970, whose times are no whole milliseconds, with texts that are
escaped in columns of JSON. -/
def acrossEpoch : RunRecord where
  id := .ofSerial 7
  taskName := ""
  success := false
  startTime := some ⟨-1, 999500000⟩
  endTime := some ⟨0, 700000⟩
  error := some "\x00\t\"a\\\u2028é😀"
  origin := ⟨["", "null", "[\"a\", \x7b\x7d]"], ["\"", "\x07\n"], "\x7b\"m\": 1.50\x7d"⟩

theorem comes_back_floored_sample :
    acrossEpoch.Regular ∧ (ofRecord acrossEpoch).Fits ∧
      (ofRecord acrossEpoch).toRecord = .ok acrossEpoch.floor ∧
      (ofRecord acrossEpoch.floor = ofRecord acrossEpoch ∧
        (ofRecord acrossEpoch.floor).toRecord = .ok acrossEpoch.floor) ∧
      ((ofRecord acrossEpoch).toRecord = .ok acrossEpoch ↔ acrossEpoch.Whole) ∧
      ∀ start ∈ acrossEpoch.startTime, ∀ stop ∈ acrossEpoch.endTime,
        start.sinceEpoch ≤ stop.sinceEpoch →
        ∃ d stored, acrossEpoch.nanos? = some d ∧ acrossEpoch.floor.nanos? = some stored ∧
          0 ≤ stored ∧ (stored - d).natAbs < 10 ^ 6 :=
  ⟨by decide, comes_back_floored (by decide)⟩

/-- Half a millisecond before 1970 is taken down to a whole one, so that the run, which took 1.2
milliseconds, is stored as one of a single millisecond. -/
example :
    acrossEpoch.floor.startTime = some ⟨-1, 999000000⟩ ∧
      acrossEpoch.floor.endTime = some ⟨0, 0⟩ ∧
      acrossEpoch.nanos? = some 1200000 ∧ acrossEpoch.floor.nanos? = some 1000000 := by
  decide

end RunRow

end TaskSync
