import Grc.Lib.Checks
import Grc.Lib.Texts
import Mathlib.Algebra.Ring.Nat

/-! The fetch of a bank's address: each address come to is checked, connected to as checked, and its redirects followed, the whole of it in a
bounded number of steps. -/
namespace Grc.Agents.UrlFetch

open Grc.Lib

structure Settings where
  STANDARDS_PUBLISHER_HOSTS : List Text
  RESEARCH_URL_MAX_BYTES : Nat := 1000000
  RESEARCH_URL_MAX_REDIRECTS : Nat := 3

/-- `urlsplit`'s parts, with `parts.port` and `parts.hostname`. -/
structure Split where
  scheme : Text
  hostname : Option Text
  port : Option Nat
  username : Option Text := none
  password : Option Text := none
  path : Text := []
  query : Text := []

inductive Ip where
  | v4 (bits : BitVec 32)
  | v6 (bits : BitVec 128)
  deriving DecidableEq

/-- An address with the scope after its percent sign. -/
structure Address where
  ip : Ip
  scope : Option Text := none
  deriving DecidableEq

/-- What a codec raises under `errors="replace"`. -/
inductive CodecError where
  | lookupError
  | other

/-- Python's own functions that the fetch calls. `none`: `ValueError`. `reads` is a host name as the resolver reads it; `writes` and `names`
tell the host names that a `Host` header and TLS take. -/
structure Library where
  urlsplit : Text → Option Split
  lower : Text → Text
  ipAddress : Text → Option Address
  isGlobal : Ip → Bool
  isMulticast : Ip → Bool
  urljoin : Text → Text → Option Text
  decode : Text → List Octet → Except CodecError Text
  utf8 : List Octet → Text
  reads : Text → Text
  writes : Text → Bool
  names : Text → Bool

/-- The host, the checked address and the path an address may be fetched at. -/
structure Target where
  host : Text
  address : Address
  path : Text

/-- `_CheckedConnection`, with the name its certificate is verified for. -/
structure Connection where
  host : Text
  address : Address
  port : Nat
  serverHostname : Text
  deriving DecidableEq

def checkedConnection (target : Target) : Connection where
  host := target.host
  address := target.address
  port := 443
  serverHostname := target.host

/-- One turn of the loop that reads a body. -/
inductive Piece where
  | late
  | failed
  | data (octets : List Octet)

/-- What a server does: no connection, one that fails before the headers are read, or an answer. -/
inductive Served where
  | refused
  | failed
  | answered (status : Nat) (location charset : Option Text) (pieces : List Piece)

/-- What lies outside, step by step: the resolver, the deadline and the servers. -/
structure Web where
  resolve : Nat → Text → List Address
  late : Nat → Bool
  serves : Nat → Target → Served

structure Fetched where
  status : Nat
  location : Text
  body : List Octet
  charset : Text

/-- An exception that nothing on the way catches. -/
inductive Raised where
  | httpException
  | unicodeError
  | valueError
  | codec
  deriving DecidableEq

inductive Outcome where
  | text (page : Text)
  | refused (code : String)
  | raises (exc : Raised)
  deriving DecidableEq

inductive Got where
  | answer (fetched : Fetched)
  | unreachable
  | raises (exc : Raised)

/-- `[\x00-\x20\x7f]`. -/
def isDisallowed (point : CodePoint) : Bool := decide (point.val ≤ 0x20 ∨ point.val = 0x7F)

/-- `_WRAPS_IPV4` and `ipv4_mapped`: the IPv4 address that an IPv6 address carries. -/
def unwrapped : Ip → Ip
  | .v4 bits => .v4 bits
  | .v6 bits =>
    let front := bits.toNat / 2 ^ 32
    if front = 0xFFFF ∨ front = 0x64FF9B * 2 ^ 64 ∨ front = 0 then .v4 (BitVec.ofNat 32 bits.toNat) else .v6 bits

variable (settings : Settings) (lib : Library) (web : Web)

/-- `_public`. -/
def isPublic (address : Address) : Bool := lib.isGlobal (unwrapped address.ip) && !lib.isMulticast (unwrapped address.ip)

/-- A listed publisher's host, or below one. -/
def isListed (host : Text) : Bool :=
  settings.STANDARDS_PUBLISHER_HOSTS.any fun listed => host == listed || (letters "." ++ listed).isSuffixOf host

/-- `(parts.hostname or "").rstrip(".").lower()`. -/
def hostOf (split : Split) : Text := lib.lower ((split.hostname.getD []).rdropWhile (· == 0x2E))

def addressesOf (step : Nat) (host : Text) : List Address :=
  match lib.ipAddress host with
  | some address => [address]
  | none => web.resolve step host

/-- `_allowed`. -/
def allowed (step : Nat) (url : Text) : Except String Target :=
  match lib.urlsplit url with
  | none => .error "url_not_allowed"
  | some split =>
    let host := hostOf lib split
    if split.scheme ≠ letters "https" ∨ host = [] ∨ (split.port ≠ none ∧ split.port ≠ some 443) ∨ split.username.getD [] ≠ [] ∨
        split.password.getD [] ≠ [] then .error "url_not_allowed"
    else if isListed settings host then .error "url_not_allowed"
    else
      match addressesOf lib web step host with
      | [] => .error "url_unreachable"
      | address :: others =>
        if (address :: others).all (isPublic lib) then
          let path := if split.path = [] then letters "/" else split.path
          .ok { host, address, path := if split.query = [] then path else path ++ letters "?" ++ split.query }
        else .error "url_not_allowed"

/-- `_read_body`, none where it raises `Unreachable`. -/
def readBody (body : List Octet) : List Piece → Option (List Octet)
  | [] => some body
  | piece :: rest =>
    if settings.RESEARCH_URL_MAX_BYTES ≤ body.length then some body
    else
      match piece with
      | .late | .failed => none
      | .data octets =>
        if octets = [] then some body
        else readBody (body ++ octets.take (min (64 * 1024) (settings.RESEARCH_URL_MAX_BYTES - body.length))) rest

/-- What is made of a server's behaviour, once the connection is open. -/
def received (target : Target) (served : Served) : Got :=
  match served with
  | .refused => .unreachable
  | .failed => if lib.names target.host then .unreachable else .raises .valueError
  | .answered status location charset pieces =>
    if lib.names target.host then
      match readBody settings [] pieces with
      | none => .unreachable
      | some body => .answer { status, location := location.getD [], body, charset := (charset.filter (· ≠ [])).getD (letters "utf-8") }
    else .raises .valueError

/-- `_get`, with the connection it opened. -/
def get (step : Nat) (target : Target) : Option Connection × Got :=
  if target.host.any isDisallowed then (none, .raises .httpException)
  else if web.late step then (none, .unreachable)
  else if target.path.any isDisallowed then (none, .unreachable)
  else if target.path.any (128 ≤ ·.val) then (none, .raises .unicodeError)
  else if lib.writes target.host then (some (checkedConnection target), received settings lib target (web.serves step target))
  else (none, .raises .unicodeError)

/-- `_REDIRECTS`. -/
def redirects : List Nat := [301, 302, 303, 307, 308]

/-- What the page of an answer comes to. -/
def page (fetched : Fetched) : Outcome :=
  if fetched.status < 200 ∨ 300 ≤ fetched.status then .refused "url_unreachable"
  else
    match lib.decode fetched.charset fetched.body with
    | .ok text => .text (text.filter (·.val ≠ 0))
    | .error .lookupError => .text ((lib.utf8 fetched.body).filter (·.val ≠ 0))
    | .error .other => .raises .codec

/-- The loop of `_fetch`, with the connections it opened, each with its step. -/
def fetchFrom : (turns step : Nat) → Text → List (Nat × Connection) × Outcome
  | 0, _, _ => ([], .refused "url_unreachable")
  | turns + 1, step, url =>
    match allowed settings lib web step url with
    | .error code => ([], .refused code)
    | .ok target =>
      let got := get settings lib web step target
      let opened := got.1.toList.map (step, ·)
      match got.2 with
      | .unreachable => (opened, .refused "url_unreachable")
      | .raises exc => (opened, .raises exc)
      | .answer fetched =>
        if fetched.status ∈ redirects ∧ fetched.location ≠ [] then
          match lib.urljoin url fetched.location with
          | none => (opened, .refused "url_not_allowed")
          | some next => (opened ++ (fetchFrom turns (step + 1) next).1, (fetchFrom turns (step + 1) next).2)
        else (opened, page lib fetched)

/-- `_fetch`. -/
def fetch (url : Text) : List (Nat × Connection) × Outcome := fetchFrom settings lib web (settings.RESEARCH_URL_MAX_REDIRECTS + 1) 0 url

/-- Where the address of a step redirects to. -/
def follows (step : Nat) (url : Text) : Option Text :=
  match allowed settings lib web step url with
  | .error _ => none
  | .ok target =>
    match (get settings lib web step target).2 with
    | .answer fetched => if fetched.status ∈ redirects ∧ fetched.location ≠ [] then lib.urljoin url fetched.location else none
    | _ => none

/-- The address come to so many steps on. -/
def urlFrom (step : Nat) (url : Text) : Nat → Option Text
  | 0 => some url
  | further + 1 => (follows settings lib web step url).bind fun next => urlFrom (step + 1) next further

/-- A connection may stand: https on port 443, to an address judged public in its step, under no publisher's host as the resolver reads it. -/
structure MayStand (step : Nat) (connection : Connection) : Prop where
  https : connection.port = 443 ∧ connection.serverHostname = connection.host
  judged : connection.address ∈ addressesOf lib web step connection.host ∧ isPublic lib connection.address = true
  unlisted : isListed settings (lib.reads connection.host) = false

structure Stays (turns : Nat) (opened : List (Nat × Connection)) : Prop where
  few : opened.length ≤ turns
  each : ∀ entry ∈ opened, MayStand settings lib web entry.1 entry.2

/-- The request to a target can be written, and its connection is opened. -/
structure Sends (step : Nat) (target : Target) : Prop where
  host : target.host.any isDisallowed = false
  inTime : web.late step = false
  path : target.path.any isDisallowed = false ∧ target.path.any (128 ≤ ·.val) = false
  header : lib.writes target.host = true

/-- An address whose host is a publisher's only as the resolver reads it is connected to. -/
def Slips (step : Nat) (url : Text) : Prop :=
  ∃ target, allowed settings lib web step url = .ok target ∧ isListed settings (lib.reads target.host) = true ∧ Sends lib web step target

/-- A request that cannot be written, or a name that TLS does not take, where no connection failed before. -/
def Unsendable (step : Nat) (target : Target) : Prop :=
  target.host.any isDisallowed = true ∨ web.late step = false ∧ target.path.any isDisallowed = false ∧
    (target.path.any (128 ≤ ·.val) = true ∨ lib.writes target.host = false ∨
      lib.names target.host = false ∧ web.serves step target ≠ .refused)

/-- A page whose charset names a codec that raises something else than `LookupError` on its body. -/
def Undecodable (step : Nat) (target : Target) : Prop :=
  ∃ fetched, (get settings lib web step target).2 = .answer fetched ∧ 200 ≤ fetched.status ∧ fetched.status < 300 ∧
    lib.decode fetched.charset fetched.body = .error .other

def Breaks (step : Nat) (url : Text) : Prop :=
  ∃ target, allowed settings lib web step url = .ok target ∧ (Unsendable lib web step target ∨ Undecodable settings lib web step target)

/-- Text that holds no NUL, or one of the two refusals. -/
def Outcome.Stated : Outcome → Prop
  | .text page => ∀ point ∈ page, point.val ≠ 0
  | .refused code => code = "url_not_allowed" ∨ code = "url_unreachable"
  | .raises _ => False

variable {settings : Settings} {lib : Library} {web : Web} {step turns : Nat} {url : Text} {target : Target}

theorem allowed_ok (went : allowed settings lib web step url = .ok target) :
    target.address ∈ addressesOf lib web step target.host ∧ isPublic lib target.address = true := by
  unfold allowed at went
  split at went
  · cases went
  · dsimp only at went
    split at went
    · cases went
    · split at went
      · cases went
      · split at went
        · cases went
        · rename_i address others found
          split at went
          · rename_i judged
            cases went
            exact ⟨found ▸ List.mem_cons_self, List.all_eq_true.mp judged address List.mem_cons_self⟩
          · cases went

theorem allowed_error {code : String} (refused : allowed settings lib web step url = .error code) :
    code = "url_not_allowed" ∨ code = "url_unreachable" := by
  unfold allowed at refused
  dsimp only at refused
  repeat' split at refused
  all_goals cases refused
  all_goals first | exact .inl rfl | exact .inr rfl

theorem get_opened {connection : Connection} : (get settings lib web step target).1 = some connection ↔
    connection = checkedConnection target ∧ Sends lib web step target := by
  unfold get
  constructor
  · intro opened
    repeat' split at opened
    all_goals cases opened
    rename_i host inTime path ascii header
    exact ⟨rfl, by simpa using host, by simpa using inTime, ⟨by simpa using path, by simpa using ascii⟩, header⟩
  · rintro ⟨rfl, sends⟩
    simp only [sends.host, sends.inTime, sends.path.1, sends.path.2, sends.header, Bool.false_eq_true, if_false, if_true]

theorem get_raises : (∃ exc, (get settings lib web step target).2 = .raises exc) ↔ Unsendable lib web step target := by
  unfold get Unsendable
  split
  · simp_all
  · split
    · simp_all
    · split
      · simp_all
      · split
        · simp_all
        · split
          · cases web.serves step target with
            | refused => simp_all [received]
            | failed => cases named : lib.names target.host <;> simp_all [received]
            | answered status location charset pieces =>
              cases named : lib.names target.host
              · simp_all [received]
              · cases whole : readBody settings [] pieces <;> simp_all [received]
          · simp_all

/-- The connection a step opens, if it does. -/
def openedAt (settings : Settings) (lib : Library) (web : Web) (step : Nat) (url : Text) : List (Nat × Connection) :=
  match allowed settings lib web step url with
  | .error _ => []
  | .ok target => (get settings lib web step target).1.toList.map (step, ·)

/-- What a step ends the loop with, where it does not redirect. -/
def endsAt (settings : Settings) (lib : Library) (web : Web) (step : Nat) (url : Text) : Outcome :=
  match allowed settings lib web step url with
  | .error code => .refused code
  | .ok target =>
    match (get settings lib web step target).2 with
    | .unreachable => .refused "url_unreachable"
    | .raises exc => .raises exc
    | .answer fetched =>
      if fetched.status ∈ redirects ∧ fetched.location ≠ [] then .refused "url_not_allowed" else page lib fetched

/-- One turn of the loop, and the others from where it redirects. -/
theorem fetchFrom_succ : fetchFrom settings lib web (turns + 1) step url =
    match follows settings lib web step url with
    | none => (openedAt settings lib web step url, endsAt settings lib web step url)
    | some next => (openedAt settings lib web step url ++ (fetchFrom settings lib web turns (step + 1) next).1,
      (fetchFrom settings lib web turns (step + 1) next).2) := by
  rw [fetchFrom]
  unfold follows openedAt endsAt
  cases allowed settings lib web step url with
  | error code => rfl
  | ok target =>
    dsimp only
    cases (get settings lib web step target).2 with
    | unreachable | raises exc => rfl
    | answer fetched =>
      dsimp only
      split
      · cases lib.urljoin url fetched.location <;> rfl
      · rfl

/-- What holds of every address come to: of the first, and of those from where it redirects. -/
theorem forall_urlFrom (P : Nat → Text → Prop) :
    (∀ further < turns + 1, ∀ each, urlFrom settings lib web step url further = some each → P (step + further) each) ↔
      P step url ∧ ∀ next, follows settings lib web step url = some next →
        ∀ further < turns, ∀ each, urlFrom settings lib web (step + 1) next further = some each → P (step + 1 + further) each := by
  constructor
  · intro all
    refine ⟨all 0 (Nat.succ_pos turns) url rfl, fun next redirected further within each come => ?_⟩
    have there := all (further + 1) (Nat.succ_lt_succ within) each (by rw [urlFrom, redirected, Option.bind_some, come])
    rwa [Nat.add_assoc, Nat.add_comm 1]
  · intro all further within each come
    cases further with
    | zero => exact Option.some.inj come ▸ all.1
    | succ further =>
      obtain ⟨next, redirected, come⟩ := Option.bind_eq_some_iff.mp come
      have there := all.2 next redirected further (Nat.lt_of_succ_lt_succ within) each come
      rwa [Nat.add_assoc, Nat.add_comm 1] at there

theorem openedAt_stays : Stays settings lib web 1 (openedAt settings lib web step url) ↔ ¬Slips settings lib web step url := by
  unfold openedAt
  constructor
  · rintro stays ⟨target, went, listed, sends⟩
    have opened : (get settings lib web step target).1 = some (checkedConnection target) := get_opened.mpr ⟨rfl, sends⟩
    have stands := stays.each (step, checkedConnection target) (by simp [went, opened])
    exact Bool.false_ne_true (stands.unlisted.symm.trans listed)
  · intro firm
    split
    · exact ⟨Nat.zero_le _, nofun⟩
    · rename_i target went
      cases opened : (get settings lib web step target).1 with
      | none => exact ⟨Nat.zero_le _, nofun⟩
      | some connection =>
        refine ⟨Nat.le_refl 1, fun entry there => ?_⟩
        obtain rfl := List.mem_singleton.mp there
        obtain ⟨rfl, sends⟩ := get_opened.mp opened
        refine ⟨⟨rfl, rfl⟩, allowed_ok went, ?_⟩
        exact Bool.eq_false_iff.mpr fun listed => firm ⟨target, went, listed, sends⟩

theorem Stays.append {more : Nat} {first second : List (Nat × Connection)} (fewFirst : first.length ≤ turns) (fewSecond : second.length ≤ more) :
    Stays settings lib web (turns + more) (first ++ second) ↔ Stays settings lib web turns first ∧ Stays settings lib web more second := by
  constructor
  · exact fun stays => ⟨⟨fewFirst, fun entry there => stays.each entry (List.mem_append_left _ there)⟩,
      ⟨fewSecond, fun entry there => stays.each entry (List.mem_append_right _ there)⟩⟩
  · rintro ⟨one, two⟩
    refine ⟨by rw [List.length_append]; exact Nat.add_le_add one.few two.few, fun entry there => ?_⟩
    exact (List.mem_append.mp there).elim (one.each entry) (two.each entry)

theorem openedAt_few : (openedAt settings lib web step url).length ≤ 1 := by
  unfold openedAt
  split
  · exact Nat.zero_le 1
  · rw [List.length_map]
    exact Option.length_toList_le

theorem fetchFrom_few : (fetchFrom settings lib web turns step url).1.length ≤ turns := by
  induction turns generalizing step url with
  | zero => exact Nat.le_refl 0
  | succ turns ih =>
    rw [fetchFrom_succ]
    have here := @openedAt_few settings lib web step url
    cases follows settings lib web step url with
    | none => exact here.trans (Nat.succ_le_succ (Nat.zero_le turns))
    | some next =>
      have rest := @ih (step + 1) next
      simp only [List.length_append]
      omega

theorem fetchFrom_stays : Stays settings lib web turns (fetchFrom settings lib web turns step url).1 ↔
    ∀ further < turns, ∀ each, urlFrom settings lib web step url further = some each → ¬Slips settings lib web (step + further) each := by
  induction turns generalizing step url with
  | zero => exact iff_of_true ⟨Nat.le_refl 0, nofun⟩ nofun
  | succ turns ih =>
    rw [forall_urlFrom fun step url => ¬Slips settings lib web step url, ← openedAt_stays, fetchFrom_succ, Nat.add_comm turns 1]
    cases follows settings lib web step url with
    | none =>
      have alone := @Stays.append settings lib web 1 turns _ [] (@openedAt_few settings lib web step url) (Nat.zero_le turns)
      rw [List.append_nil] at alone
      exact alone.trans (and_congr_right fun _ => iff_of_true ⟨Nat.zero_le turns, nofun⟩ nofun)
    | some next =>
      refine (Stays.append openedAt_few fetchFrom_few).trans (and_congr_right fun _ => ih.trans ?_)
      exact ⟨fun all other same => Option.some.inj same ▸ all, fun all => all next rfl⟩

/-- The fetch stays where it may go exactly where no address it comes to has a host that only the resolver's reading makes a publisher's. -/
theorem fetch_stays_iff (settings : Settings) (lib : Library) (web : Web) (url : Text) :
    Stays settings lib web (settings.RESEARCH_URL_MAX_REDIRECTS + 1) (fetch settings lib web url).1 ↔
      ∀ further ≤ settings.RESEARCH_URL_MAX_REDIRECTS, ∀ each, urlFrom settings lib web 0 url further = some each →
        ¬Slips settings lib web further each := by
  refine fetchFrom_stays.trans ?_
  simp only [Nat.zero_add, Nat.lt_succ_iff]

theorem page_stated {fetched : Fetched} : (page lib fetched).Stated ↔
    ¬(200 ≤ fetched.status ∧ fetched.status < 300 ∧ lib.decode fetched.charset fetched.body = .error .other) := by
  unfold page
  have noNul : ∀ text : Text, (Outcome.text (text.filter (·.val ≠ 0))).Stated := fun text point there => by
    simpa using (List.mem_filter.mp there).2
  split
  · exact iff_of_true (.inr rfl) (by omega)
  · split
    · exact iff_of_true (noNul _) (by simp_all)
    · exact iff_of_true (noNul _) (by simp_all)
    · rename_i other
      exact iff_of_false id (fun stated => stated ⟨by omega, by omega, other⟩)

theorem endsAt_stated : (endsAt settings lib web step url).Stated ∨ (follows settings lib web step url).isSome = true ↔
    ¬Breaks settings lib web step url := by
  unfold endsAt follows
  cases went : allowed settings lib web step url with
  | error code => exact iff_of_true (.inl (allowed_error went)) fun ⟨target, its, _⟩ => nomatch went.symm.trans its
  | ok target =>
    have breaks : Breaks settings lib web step url ↔ Unsendable lib web step target ∨ Undecodable settings lib web step target :=
      ⟨fun ⟨other, its, broken⟩ => Except.ok.inj (went.symm.trans its) ▸ broken, fun broken => ⟨target, went, broken⟩⟩
    rw [breaks, ← @get_raises settings]
    unfold Undecodable
    dsimp only
    cases got : (get settings lib web step target).2 with
    | unreachable => exact iff_of_true (.inl (.inr rfl)) (by simp)
    | raises exc => exact iff_of_false (by simp [Outcome.Stated]) (fun sound => sound (.inl ⟨exc, rfl⟩))
    | answer fetched =>
      dsimp only
      split
      · rename_i redirected
        refine iff_of_true (.inl (Or.inl rfl)) ?_
        rintro (⟨exc, raised⟩ | ⟨other, same, from_, below, -⟩)
        · cases raised
        · cases same
          have moved := redirected.1
          simp only [redirects, List.mem_cons, List.not_mem_nil, or_false] at moved
          omega
      · simp [page_stated]

theorem fetchFrom_stated : (fetchFrom settings lib web turns step url).2.Stated ↔
    ∀ further < turns, ∀ each, urlFrom settings lib web step url further = some each → ¬Breaks settings lib web (step + further) each := by
  induction turns generalizing step url with
  | zero => exact iff_of_true (.inr rfl) nofun
  | succ turns ih =>
    rw [forall_urlFrom fun step url => ¬Breaks settings lib web step url, ← endsAt_stated, fetchFrom_succ]
    cases follows settings lib web step url with
    | none => simp
    | some next => simp [ih]

/-- The fetch ends in a stated answer exactly where, at no address it comes to, the request cannot be written or TLS does not take the host, or a
page's charset names a codec that raises something else than `LookupError`. -/
theorem fetch_stated_iff (settings : Settings) (lib : Library) (web : Web) (url : Text) :
    (fetch settings lib web url).2.Stated ↔
      ∀ further ≤ settings.RESEARCH_URL_MAX_REDIRECTS, ∀ each, urlFrom settings lib web 0 url further = some each →
        ¬Breaks settings lib web further each := by
  refine fetchFrom_stated.trans ?_
  simp only [Nat.zero_add, Nat.lt_succ_iff]

section Plain

/-- Python's functions on a plain address: a scheme, a host in lower case and a path. The resolver reads an ideographic full stop as a dot. -/
def plainLibrary : Library where
  urlsplit url := (letters "https://").isPrefixOf? url |>.map fun rest =>
    { scheme := letters "https", hostname := some (rest.takeWhile (· != 0x2F)), port := none, path := rest.dropWhile (· != 0x2F) }
  lower := id
  ipAddress _ := none
  isGlobal _ := true
  isMulticast _ := false
  urljoin _ _ := none
  decode _ _ := .ok []
  utf8 _ := []
  reads host := host.map fun point => if point = 0x3002 then 0x2E else point
  writes _ := true
  names _ := true

def plainWeb : Web where
  resolve _ _ := [⟨.v4 0x08080808, none⟩]
  late _ := false
  serves _ _ := .answered 200 none none []

/-- `www.iso。org` is no listed host as it is written, and is connected to. -/
theorem ideographicDot_slips : ¬Stays { STANDARDS_PUBLISHER_HOSTS := [letters "iso.org"] } plainLibrary plainWeb 4
    (fetch { STANDARDS_PUBLISHER_HOSTS := [letters "iso.org"] } plainLibrary plainWeb (letters "https://www.iso。org")).1 := by
  intro stays
  have unlisted := (stays.each (0, ⟨letters "www.iso。org", ⟨.v4 0x08080808, none⟩, 443, letters "www.iso。org"⟩) (by decide +kernel)).unlisted
  revert unlisted
  decide +kernel

/-- A path beyond ASCII cannot be written as a request line. -/
theorem accentedPath_raises :
    ¬(fetch { STANDARDS_PUBLISHER_HOSTS := [] } plainLibrary plainWeb (letters "https://bank.example/å")).2.Stated := by
  have raised : (fetch { STANDARDS_PUBLISHER_HOSTS := [] } plainLibrary plainWeb (letters "https://bank.example/å")).2 = .raises .unicodeError := by
    decide +kernel
  rw [raised]
  exact id

end Plain

end Grc.Agents.UrlFetch
