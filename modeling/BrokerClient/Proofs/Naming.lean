import BrokerClient.Connection.Manager
import BrokerClient.Proofs.WireFormat

/-!
# Applications that exchanges can be named after

The name of an application is checked twice. The settings want it to be not empty and without a
point; the names of exchanges want a segment that is not blank. So a name of blank characters alone
passes the first check and fails the second, and no manager can be made of such settings. For all
other settings the two checks agree, and the manager has the three exchanges of the application.

## Main results

* `Settings.ofSources_spec` — what settings that come from sources are known to satisfy.
* `Settings.application_accepted_iff` — the names of applications that settings can have.
* `Connection.Manager.create_named_iff` — the settings that a manager can be made of.
-/

namespace BrokerClient

open Validation

namespace Validation

theorem nonEmptyString_eq_ok_iff {v : Json} {s : String} :
    nonEmptyString v = .ok s ↔ v = .str s ∧ s ≠ "" := by
  constructor
  · intro h
    have full := ne_empty_of_nonEmptyString h
    cases v with
    | str t =>
      change (if t.isEmpty then Except.error Reason.stringTooShort else .ok t) = .ok s at h
      split at h
      · cases h
      · cases h
        exact ⟨rfl, full⟩
    | null | bool | int | float | arr | obj => cases h
  · rintro ⟨rfl, full⟩
    exact nonEmptyString_str full

end Validation

namespace Routing

/-- A single segment is its own name, unless it is blank. -/
theorem joinSegments_single (name segment : String) :
    joinSegments [(name, segment)] = if Text.isBlankText segment then
      .error (.badValue s!"{name} must be a non-empty string") else .ok segment := by
  cases blank : Text.isBlankText segment with
  | true => simp [joinSegments, blank]
  | false => simp [joinSegments, blank]

theorem ExchangeNames.forApplication_eq (application : String) :
    forApplication application = if Text.isBlankText application then
      .error (.badValue "application must be a non-empty string")
      else .ok ⟨application ++ ".events", application ++ ".commands", application ++ ".dlx"⟩ := by
  rw [forApplication, joinSegments_single]
  cases Text.isBlankText application with
  | true => rfl
  | false => rfl

end Routing

namespace Settings

/-- The names of applications that settings can have: texts that are not empty and have no
point. -/
theorem readApplication_eq_ok_iff {v : Json} {a : String} :
    readApplication v = .ok a ↔ v = .str a ∧ a ≠ "" ∧ '.' ∉ a.toList := by
  unfold readApplication
  cases read : nonEmptyString v with
  | error r =>
    have refused : ¬ (v = .str a ∧ a ≠ "") := by
      rw [← nonEmptyString_eq_ok_iff, read]
      nofun
    exact iff_of_false nofun fun h => refused ⟨h.1, h.2.1⟩
  | ok s =>
    obtain ⟨rfl, full⟩ := nonEmptyString_eq_ok_iff.mp read
    change (if s.toList.contains '.' then Except.error _ else .ok s) = .ok a ↔ _
    by_cases point : '.' ∈ s.toList
    · rw [if_pos (by simpa using point)]
      refine iff_of_false nofun ?_
      rintro ⟨⟨⟩, -, free⟩
      exact free point
    · rw [if_neg (by simpa using point)]
      constructor
      · rintro ⟨⟩
        exact ⟨rfl, full, point⟩
      · rintro ⟨⟨⟩, -, -⟩
        rfl

variable {s : Sources} {settings : Settings}

/-- Settings that come from sources have a pool of at least one channel and an application with a
name. -/
theorem ofSources_spec (h : ofSources s = .ok settings) :
    1 ≤ settings.channelPoolSize ∧ settings.application ≠ "" ∧
      '.' ∉ settings.application.toList := by
  have read := Checked.mapError_eq_ok_iff.mp h
  simp only [Form.check_ignore, form, Form.read_map, Form.read_seq, Checked.apply_eq_ok_iff,
    Checked.map_eq_ok_iff] at read
  obtain ⟨_, _, ⟨_, _, ⟨_, _, ⟨_, _, ⟨_, _, ⟨_, _, ⟨_, _, ⟨_, _, ⟨_, _, ⟨_, _,
    ⟨_, -, rfl⟩, -, rfl⟩, -, rfl⟩, -, rfl⟩, -, rfl⟩, -, rfl⟩, hpool, rfl⟩, -, rfl⟩, -, rfl⟩,
    happlication, rfl⟩, -, rfl⟩ := read
  constructor
  · obtain ⟨_, v, -, given⟩ | default := Form.field_eq_ok hpool
    · exact le_of_intFrom (Checked.ofReading_eq_ok_iff.mp given)
    · cases default
      exact (by decide : (1 : Int) ≤ 5)
  · obtain ⟨_, v, -, given⟩ | default := Form.field_eq_ok happlication
    · exact (readApplication_eq_ok_iff.mp (Checked.ofReading_eq_ok_iff.mp given)).2
    · cases default
      exact (by decide : "secondhand" ≠ "" ∧ '.' ∉ "secondhand".toList)

/-- Sources that give the application and nothing else. -/
def Sources.ofApplication (application : String) : Sources where
  keywords := [("application", .str application)]

/-- Settings with their defaults but for the application. -/
def ofApplication (application : String) : Settings where
  host := "localhost"
  port := 5672
  user := "guest"
  password := "guest"
  vhost := "/"
  managementPort := 15672
  channelPoolSize := 5
  heartbeat := 30
  reconnectInterval := 1
  application := application
  enableTracing := true

theorem Sources.members_ofApplication (application : String) :
    (ofApplication application).members = [("application", .str application)] := by
  have lower : "application".toLower = "application" :=
    String.toList_injective (String.toList_map ..)
  simp only [members, ofApplication, List.map_cons, List.map_nil, lower]
  rfl

/-- A name that is not empty and has no point is accepted, whatever else it is made of. -/
theorem ofSources_ofApplication {application : String}
    (named : application ≠ "" ∧ '.' ∉ application.toList) :
    ofSources (.ofApplication application) = .ok (ofApplication application) := by
  have read : readApplication (.str application) = .ok application :=
    readApplication_eq_ok_iff.mpr ⟨rfl, named⟩
  rw [ofSources, Sources.members_ofApplication, Form.check_ignore]
  simp [form, Form.withDefault, Form.field, FieldName.find?, FieldName.single, Json.member?,
    read, Checked.ofReading, Checked.apply, Except.map, Checked.mapError_ok, ofApplication]

/-- The applications that settings can have are the texts that are not empty and have no point. -/
theorem application_accepted_iff (application : String) :
    (∃ s settings, ofSources s = .ok settings ∧ settings.application = application) ↔
      application ≠ "" ∧ '.' ∉ application.toList := by
  constructor
  · rintro ⟨s, settings, accepted, rfl⟩
    exact (ofSources_spec accepted).2
  · exact fun named => ⟨_, _, ofSources_ofApplication named, rfl⟩

end Settings

namespace Connection.Manager

open Channel Routing Settings

/-- A manager can be made of settings that come from sources exactly if the application is not
blank, and it has the exchanges of the application then. A blank application, although the settings
accept it, is refused by the names of the exchanges. -/
theorem create_named_iff {s : Sources} {settings : Settings} (h : ofSources s = .ok settings) :
    ((∃ m, create settings = .ok m ∧ m.names = ⟨settings.application ++ ".events",
        settings.application ++ ".commands", settings.application ++ ".dlx"⟩) ↔
      Text.isBlankText settings.application = false) ∧
    (Text.isBlankText settings.application →
      create settings = .error (.badValue "application must be a non-empty string")) := by
  obtain ⟨sized, -, -⟩ := ofSources_spec h
  have pool : Pool.create settings.channelPoolSize =
      .ok { size := settings.channelPoolSize.toNat } := if_neg (by omega)
  cases blank : Text.isBlankText settings.application with
  | true =>
    have refused : create settings =
        .error (.badValue "application must be a non-empty string") := by
      rw [create, ExchangeNames.forApplication_eq, if_pos blank]
      rfl
    rw [refused]
    exact ⟨iff_of_false (by rintro ⟨m, made, -⟩; cases made) nofun, fun _ => rfl⟩
  | false =>
    have made : create settings = .ok
        { settings
          names := ⟨settings.application ++ ".events", settings.application ++ ".commands",
            settings.application ++ ".dlx"⟩
          pool := { size := settings.channelPoolSize.toNat } } := by
      rw [create, ExchangeNames.forApplication_eq, if_neg (by simp [blank]), pool]
      rfl
    exact ⟨iff_of_true ⟨_, made, rfl⟩ rfl, nofun⟩

theorem create_named_shop :
    ofSources (.ofApplication "shop") = .ok (ofApplication "shop") ∧
      ∃ m, create (ofApplication "shop") = .ok m ∧
        m.names = ⟨"shop" ++ ".events", "shop" ++ ".commands", "shop" ++ ".dlx"⟩ := by
  have accepted : ofSources (.ofApplication "shop") = .ok (ofApplication "shop") :=
    ofSources_ofApplication (by decide)
  exact ⟨accepted, (create_named_iff accepted).1.mpr (by decide)⟩

/-- It is not true that a manager can be made of all settings: an application of one space is
accepted by the settings, but no exchange is named after it. -/
theorem create_refuses_space : ¬ ∀ (s : Sources) (settings : Settings),
    ofSources s = .ok settings → ∃ m, create settings = .ok m := by
  intro made
  have accepted : ofSources (.ofApplication " ") = .ok (ofApplication " ") :=
    ofSources_ofApplication (by decide)
  obtain ⟨m, created⟩ := made _ _ accepted
  rw [create, ExchangeNames.forApplication_eq, ofApplication] at created
  cases created

end Connection.Manager

end BrokerClient
