import CardChannels.Proofs.Bearer.GivenBack

/-!
# Access points that are made to serve channels

The list of access points is the carrier's own, so a look for a channel's access point is to change
it no more than it must. The main statement says what one look inserts on a host whose list shows
insertions: nothing when an access point of the name serves the type, and otherwise the one that
was wanting. Names are looked for with the case of letters aside, but an insertion replaces by the
exact name, so that the access points of other spellings stay as they are.
-/
namespace CardChannels

/-- A list of access points with one inserted, which replaces those of exactly its name. -/
def AccessPoint.replaceIn (p : AccessPoint) (points : List AccessPoint) : List AccessPoint :=
  points.filter (·.name ≠ p.name) ++ [p]

/-- Whether a list has an access point of a name that serves a type. -/
def ServedIn (points : List AccessPoint) (name : String) (type : AccessType) : Prop :=
  ∃ p ∈ points, p.isNamed name = true ∧ type ∈ p.types

/-- The access point that a list is wanting for a name and a type: the first of the name with the
type behind its others, or a new one for the type alone. -/
inductive WantingIn (points : List AccessPoint) (name : String) (type : AccessType) :
    AccessPoint → Prop
  | widened {before behind : List AccessPoint} {p : AccessPoint}
      (split : points = before ++ p :: behind)
      (earlier : ∀ q ∈ before, q.isNamed name = false) (named : p.isNamed name = true)
      (lacks : type ∉ p.types) : WantingIn points name type ⟨p.name, p.types ++ [type]⟩
  | added (unknown : ∀ q ∈ points, q.isNamed name = false) :
      WantingIn points name type ⟨name, [type]⟩

/-- A host that allows data outside of calls, and whose list of access points is as it was left:
the list is the same at every look, and an insertion replaces by the exact name. -/
structure Host.Keeps (host : Host) (points : List AccessPoint) : Prop where
  allowed : host.dataAllowed = true
  noCall : host.voiceCall = false
  listed : host.listed = points
  offered : host.offered = points
  listedAfter : ∀ p, host.listedAfter p = p.replaceIn points

/-- A steady host that shows insertions keeps its list. -/
theorem SteadyHost.keeps_answers {h : SteadyHost} (allowed : h.dataAllowed = true)
    (noCall : h.voiceCall = false) (shown : h.hidesInserts = false) :
    h.answers.Keeps h.points where
  allowed := allowed
  noCall := noCall
  listed := rfl
  offered := rfl
  listedAfter p := by simp [answers, pointsWith, shown, AccessPoint.replaceIn]

theorem AccessPoint.isNamed_self (p : AccessPoint) : p.isNamed p.name = true := by
  simp [isNamed]

variable {points : List AccessPoint} {name : String} {type : AccessType} {p : AccessPoint}

theorem AccessPoint.others_replaceIn (p : AccessPoint) (points : List AccessPoint) :
    (p.replaceIn points).filter (·.name ≠ p.name) = points.filter (·.name ≠ p.name) := by
  simp [replaceIn]

namespace WantingIn

theorem isNamed (h : WantingIn points name type p) : p.isNamed name = true := by
  cases h with
  | widened split earlier named lacks => exact named
  | added unknown => exact AccessPoint.isNamed_self ⟨name, [type]⟩

/-- Once what a list is wanting has been inserted, the type is served. -/
theorem servedIn_replaceIn (h : WantingIn points name type p) :
    ServedIn (p.replaceIn points) name type := by
  refine ⟨p, List.mem_append_right _ (List.mem_singleton_self p), h.isNamed, ?_⟩
  cases h with
  | widened => exact List.mem_append_right _ (List.mem_singleton_self type)
  | added => exact List.mem_singleton_self type

end WantingIn

namespace BearerRegistry

variable {c : BearerRegistry} {host : Host} {k : UInt8} {r : BearerRequest}

theorem hasPoint_iff : hasPoint points name type = true ↔ ServedIn points name type := by
  simp [hasPoint, ServedIn, AccessPoint.serves]

/-- Where the type is not served, the access point to insert is the one that is wanting. -/
theorem wantingIn_pointToInsert (unserved : ¬ ServedIn points name type) :
    WantingIn points name type (pointToInsert points name type) := by
  unfold pointToInsert
  split
  · rename_i p hp
    obtain ⟨named, before, behind, split, earlier⟩ := List.find?_eq_some_iff_append.mp hp
    have mem : p ∈ points := split ▸ List.mem_append_right _ List.mem_cons_self
    exact .widened split (by simpa using earlier) named fun served =>
      unserved ⟨p, mem, named, served⟩
  · rename_i hnone
    exact .added (by simpa using List.find?_eq_none.mp hnone)

/-! A look at the list -/

theorem ensure_of_servedIn (keeps : host.Keeps points) (served : ServedIn points name type) :
    ensure host name type = (true, []) := by
  rw [ensure, keeps.listed, if_pos (hasPoint_iff.mpr served)]

theorem ensure_of_not_servedIn (keeps : host.Keeps points)
    (unserved : ¬ ServedIn points name type) :
    ensure host name type = (true, [.insert (pointToInsert points name type)]) := by
  have shows := (wantingIn_pointToInsert unserved).servedIn_replaceIn
  rw [ensure, keeps.listed, if_neg (unserved ∘ hasPoint_iff.mp)]
  simp only [keeps.offered, keeps.listedAfter, hasPoint_iff.mpr shows]

/-- What the list is wanting, if the type is not served. -/
theorem exists_ensure (keeps : host.Keeps points) (name : String) (type : AccessType) :
    ∃ inserted : Option AccessPoint,
      ensure host name type = (true, inserted.toList.map .insert) ∧
        (inserted = none ↔ ServedIn points name type) ∧
        ∀ p, inserted = some p → WantingIn points name type p := by
  by_cases served : ServedIn points name type
  · exact ⟨none, ensure_of_servedIn keeps served, by simp [served], by simp⟩
  · refine ⟨some (pointToInsert points name type), ensure_of_not_servedIn keeps served,
      by simp [served], ?_⟩
    rintro p ⟨⟩
    exact wantingIn_pointToInsert served

/-- A look that finds the access point goes on to bring the type up. -/
theorem calls_check_of_found (allowed : host.dataAllowed = true) (noCall : host.voiceCall = false)
    (held : c.requests.get? k = some r) (looking : r.isEnabled = false)
    (found : (ensureFor host r).1 = true) :
    (c.check host k r).2.2 = (ensureFor host r).2 ++ [.enable r.type (host.enable r.type)] := by
  unfold check
  simp only [allowed, noCall, found, Bool.not_true, Bool.false_eq_true, if_false]
  split
  · rfl
  · rfl
  · rw [lookAgain_calls_eq_nil held looking, List.append_nil]
  · rfl

/-- A look that finds the access point is put off only by a host that says no access point serves
the type. -/
theorem typeNotAvailable_of_check (allowed : host.dataAllowed = true)
    (noCall : host.voiceCall = false) (found : (ensureFor host r).1 = true) {delay : Nat}
    (h : (c.check host k r).2.1 = .retryAfter delay) :
    host.enable r.type = .typeNotAvailable := by
  unfold check at h
  simp only [allowed, noCall, found, Bool.not_true, Bool.false_eq_true, if_false] at h
  split at h
  · cases h
  · cases h
  · assumption
  · cases h

/-- On a host that keeps its list a look inserts what is wanting and nothing else, and goes on to
bring the type up; another look for the same then inserts nothing. -/
theorem check_inserts_what_is_wanting (held : c.requests.get? k = some r)
    (looking : r.isEnabled = false) (named : r.accessPoint = some name)
    (keeps : host.Keeps points) :
    ∃ inserted : Option AccessPoint,
      (c.check host k r).2.2 =
        inserted.toList.map .insert ++ [.enable r.type (host.enable r.type)] ∧
      (inserted = none ↔ ServedIn points name r.type) ∧
      (∀ p, inserted = some p → WantingIn points name r.type p ∧
        (p.replaceIn points).filter (·.name ≠ p.name) = points.filter (·.name ≠ p.name)) ∧
      (∀ delay, (c.check host k r).2.1 = .retryAfter delay →
        host.enable r.type = .typeNotAvailable) ∧
      let after := inserted.elim points (·.replaceIn points)
      ServedIn after name r.type ∧
      ∀ (c' : BearerRegistry) (host' : Host) (k' : UInt8) (r' : BearerRequest),
        c'.requests.get? k' = some r' → r'.isEnabled = false → r'.accessPoint = some name →
        r'.type = r.type → host'.Keeps after →
        (c'.check host' k' r').2.2 = [.enable r.type (host'.enable r.type)] := by
  obtain ⟨inserted, hensure, hnone, hsome⟩ := exists_ensure keeps name r.type
  have hensureFor : ensureFor host r = (true, inserted.toList.map .insert) := by
    rw [ensureFor, named]
    exact hensure
  have found : (ensureFor host r).1 = true := by rw [hensureFor]
  have served : ServedIn (inserted.elim points (·.replaceIn points)) name r.type := by
    cases inserted with
    | none => exact hnone.mp rfl
    | some p => exact (hsome p rfl).servedIn_replaceIn
  refine ⟨inserted, ?_, hnone, fun p hp => ⟨hsome p hp, p.others_replaceIn points⟩,
    fun delay => typeNotAvailable_of_check keeps.allowed keeps.noCall found, served, ?_⟩
  · rw [calls_check_of_found keeps.allowed keeps.noCall held looking found, hensureFor]
  · intro c' host' k' r' held' looking' named' same keeps'
    have again : ensureFor host' r' = (true, []) := by
      rw [ensureFor, named', same]
      exact ensure_of_servedIn keeps' served
    have found' : (ensureFor host' r').1 = true := by rw [again]
    rw [calls_check_of_found keeps'.allowed keeps'.noCall held' looking' found', again, same]
    rfl

/-- A list in which two access points have a name but for the case of letters, and neither serves
the type for channels. -/
def twoSpellings : SteadyHost :=
  { SteadyHost.connected with points :=
      [⟨"internet", ["default"]⟩, ⟨"BIP.Example", ["default"]⟩, ⟨"bip.example", ["mms"]⟩] }

/-- Of two access points of a name the first gains the type, and the other stays as it is. -/
theorem first_spelling_gains_type :
    let r : BearerRequest := ⟨"bip", some "bip.example", .provisioning 0⟩
    let c := (ofConfig .standard).put 1 r
    let gained : AccessPoint := ⟨"BIP.Example", ["default", "bip"]⟩
    (c.check twoSpellings.answers 1 r).2.2 = [.insert gained, .enable "bip" .alreadyActive] ∧
      WantingIn twoSpellings.points "bip.example" "bip" gained ∧
      ServedIn (gained.replaceIn twoSpellings.points) "bip.example" "bip" := by
  intro r c gained
  have keeps : twoSpellings.answers.Keeps twoSpellings.points :=
    SteadyHost.keeps_answers rfl rfl rfl
  have hcalls : (c.check twoSpellings.answers 1 r).2.2 =
      [.insert gained, .enable "bip" .alreadyActive] := by decide +kernel
  obtain ⟨inserted, hcheck, -, hsome, -, served, -⟩ :=
    check_inserts_what_is_wanting (c := c) (k := 1) (r := r) (by decide +kernel) rfl rfl keeps
  rw [hcalls] at hcheck
  cases inserted with
  | none => cases hcheck
  | some p =>
    cases hcheck
    exact ⟨hcalls, (hsome gained rfl).1, served⟩

end BearerRegistry

end CardChannels
