import CommitSearch.Error
import CommitSearch.Schedule.ZoneTable

/-!
# The daily refresh

Once a day, at a time of day in a time zone, the index is built anew. On a day on which that local
time comes twice the first one counts. On a day on which it is skipped the refresh is one hour
later, and there is none if that is skipped too.

Main definition: `next`, the first refresh strictly after an instant.
-/

namespace CommitSearch.Schedule

open CommitSearch.Calendar

/-- The zone of a name, as far as the tables go: it has the changes of 2010 to 2099. Before its first
change the offset from the beginning of 2010 holds, which need not be the historical one, so that
refreshes before 2010 can come at other instants than in the full time zone data. -/
def Zone.ofName (name : String) : Option Zone :=
  match fixedZones.find? fun entry => entry.2.contains name with
  | some (offset, _) => some ⟨offset, []⟩
  | none =>
    match yearlyZones.find? fun entry => entry.2.contains name with
    | some (rule, _) => some rule.zone
    | none => (changedZones.find? fun z => z.names.contains name).map ChangedZone.zone

/-- A time of day in a zone. -/
structure Daily where
  time : TimeOfDay
  zone : Zone
deriving DecidableEq, Repr

namespace Daily

/-- Reads time of day and zone; the time is looked at first. The zone is one of the tables, right for
refreshes of 2010 to 2099. -/
def read (time zone : String) : Except Error Daily :=
  match TimeOfDay.read time with
  | .error f => .error (.refused (.unreadableTime time f))
  | .ok t =>
    match Zone.ofName zone with
    | none => .error (.refused (.unknownTimezone zone))
    | some z => .ok ⟨t, z⟩

/-- The instant of the refresh on a local day, if there is one. One hour behind a leap second there
is no leap second. -/
def firing (d : Daily) (day : Int) : Option Instant :=
  let localSecond := day * 86400 + d.time.seconds
  (d.zone.earliest localSecond).map (Instant.mk · d.time.nanos) <|>
    (d.zone.earliest (localSecond + 3600)).map (Instant.mk · (d.time.nanos % 1000000000))

/-- The first refresh after an instant on a local day or one of the `fuel` days behind it. -/
def nextFrom (d : Daily) (now : Instant) (day : Int) : Nat → Option Instant
  | 0 => none
  | fuel + 1 =>
    match d.firing day with
    | some i => if now.before i then some i else d.nextFrom now (day + 1) fuel
    | none => d.nextFrom now (day + 1) fuel

/-- The first refresh strictly after an instant. A day without one, or with one that is over, needs
a change of offset or is the first, so that there are fewer of them than changes and two more. -/
def next (d : Daily) (now : Instant) : Option Instant :=
  d.nextFrom now (d.zone.localDay now.seconds) (d.zone.changes.length + 3)

end Daily

def defaultTime : String := "06:00"

def defaultZone : String := "Europe/Paris"

end CommitSearch.Schedule
