/-
Servers are read back from their texts.

What is read of a server behind `http` and the like is a user, a host and a port. Their texts hold
none of the characters that divide an address, but those that are written between them, so
reading takes them apart as they were put together.

Main statements:

* `Url.IsServer`: the servers that are read; `Url.isServer_of_readServer`.
* `Url.IsServer.readServer_chars`: their texts are read as these servers.
-/
import EvalConsole.Proofs.Url.Host

namespace EvalConsole

variable {s : List Char} {c : Char}

/-! ### Users -/

namespace Userinfo

/-- A user and a password as they are written in an address. -/
structure IsFit (u : Userinfo) : Prop where
  user : ∀ c ∈ u.user, Percent.userinfo c = false
  password : ∀ c ∈ u.password, Percent.userinfo c = false

theorem isFit_anonymous : anonymous.IsFit :=
  ⟨List.forall_mem_nil _, List.forall_mem_nil _⟩

theorem isFit_readUserinfo (s : List Char) : (Url.readUserinfo s).IsFit := by
  have digits : ∀ n < 16, Percent.userinfo (Percent.hexDigit n) = false := by decide
  exact ⟨fun c => Percent.fit_of_mem_encode rfl digits,
    fun c => Percent.fit_of_mem_encode rfl digits⟩

/-- The user, and the password behind a colon if there is one. -/
def inner (u : Userinfo) : List Char :=
  u.user ++ (if u.password.isEmpty then [] else ':' :: u.password)

/-- What is written for a user is read as this user. -/
theorem IsFit.readUserinfo_inner {u : Userinfo} (h : u.IsFit) : Url.readUserinfo u.inner = u := by
  have noColon : ∀ c ∈ u.user, (c != ':') = true := by
    intro c there
    rw [bne_iff_ne]
    rintro rfl
    cases h.user _ there
  obtain ⟨user, password⟩ := u
  rw [Url.readUserinfo, inner, List.takeWhile_append_of_pos noColon,
    List.dropWhile_append_of_pos noColon]
  cases password with
  | nil =>
    simpa [Percent.encode] using Percent.encode_of_fit h.user
  | cons c password =>
    simp [Percent.encode_of_fit h.user, Percent.encode_of_fit h.password]

theorem IsFit.mem_inner {u : Userinfo} (h : u.IsFit) :
    ∀ c ∈ u.inner, c = ':' ∨ Percent.userinfo c = false := by
  intro c there
  obtain there | there := List.mem_append.mp there
  · exact .inr (h.user c there)
  · split at there
    · cases there
    · obtain rfl | there := List.mem_cons.mp there
      · exact .inl rfl
      · exact .inr (h.password c there)

theorem text_eq (u : Userinfo) : u = anonymous ∧ u.text = [] ∨
    u ≠ anonymous ∧ u.inner ≠ [] ∧ u.text = u.inner ++ ['@'] := by
  obtain ⟨user, password⟩ := u
  cases user <;> cases password <;> simp [anonymous, text, inner]

end Userinfo

namespace Url

/-! ### Ports -/

/-- The port behind a colon, if there is one. -/
def portText (port : Option UInt16) : List Char :=
  match port with
  | some port => ':' :: Nat.toDigits 10 port.toNat
  | none => []

/-- The port of what stands behind a host: nothing, or a colon and digits. -/
def readPortText (scheme : List Char) : List Char → Except UrlError (Option UInt16)
  | [] => .ok none
  | _ :: digits => readPort scheme digits

theorem readPort_toDigits {scheme : List Char} {port : UInt16}
    (other : defaultPort? scheme ≠ some port) :
    readPort scheme (Nat.toDigits 10 port.toNat) = .ok (some port) := by
  have digits : (Nat.toDigits 10 port.toNat).all Char.isDigit = true := by
    rw [List.all_eq_true]
    exact fun c => Nat.isDigit_of_mem_toDigits (by decide) (by decide)
  have read : (Nat.toDigits 10 port.toNat).foldl (fun n c => n * 10 + (c.toNat - '0'.toNat)) 0 =
      port.toNat := by
    have value := Nat.ofDigitChars_toDigits (n := port.toNat) (by decide) (Nat.le_refl 10)
    rw [Nat.ofDigitChars_eq_foldl] at value
    simpa only [Nat.mul_comm 10] using value
  have small : ¬ 65535 < port.toNat := by
    have := port.toNat_lt
    omega
  have back : port.toNat.toUInt16 = port := UInt16.ofNat_toNat
  have written : (Nat.toDigits 10 port.toNat).isEmpty = false := by
    simp [Nat.toDigits_ne_nil]
  rw [readPort, read, if_neg (by simp [digits, small]), if_neg (by simp [written, back, other]), back]

/-- The port that is written is the one that is read. -/
theorem readPortText_portText {scheme : List Char} {port : Option UInt16}
    (other : ∀ p, port = some p → defaultPort? scheme ≠ some p) :
    readPortText scheme (portText port) = .ok port := by
  cases port with
  | none => rfl
  | some p => exact readPort_toDigits (other p rfl)

/-- The port that a scheme implies is not kept. -/
theorem ne_default_of_readPortText {scheme : List Char} {port : Option UInt16}
    (h : readPortText scheme s = .ok port) :
    ∀ p, port = some p → defaultPort? scheme ≠ some p := by
  cases s with
  | nil =>
    obtain rfl := Except.ok.inj h
    simp
  | cons colon digits =>
    unfold readPortText readPort at h
    dsimp only at h
    split at h
    · cases h
    · split at h
      · obtain rfl := Except.ok.inj h
        simp
      · rename_i other
        obtain rfl := Except.ok.inj h
        rintro p ⟨⟩ default
        exact other (.inr default)

/-! ### Servers -/

/-- A server that is read behind `http` and the like. -/
structure IsServer (scheme : List Char) (server : Server) : Prop where
  userinfo : server.userinfo.IsFit
  host : ∃ host, server.host = some host ∧ host.IsRead
  port : ∀ p, server.port = some p → defaultPort? scheme ≠ some p

/-- Behind `http` and the like the port decides once there is a host. -/
theorem serverOf_of_host {scheme hostText portText : List Char} {host : Host}
    (special : isSpecial scheme = true) (userinfo : Userinfo)
    (parts : splitPort false s = (hostText, portText)) (nonempty : hostText ≠ [])
    (parsed : Host.parse hostText = .ok host) :
    serverOf scheme userinfo s =
      (readPortText scheme portText).bind fun port => .ok ⟨userinfo, some host, port⟩ := by
  unfold serverOf
  rw [parts]
  dsimp only
  rw [if_pos special, if_neg (by simpa using nonempty), parsed]
  cases portText with
  | nil => rfl
  | cons colon digits => rfl

/-- Behind `http` and the like a server is one that is written behind them. -/
theorem isServer_of_serverOf {scheme : List Char} {userinfo : Userinfo} {server : Server}
    (special : isSpecial scheme = true) (fit : userinfo.IsFit)
    (h : serverOf scheme userinfo s = .ok server) : IsServer scheme server := by
  obtain ⟨⟨hostText, portText⟩, parts⟩ : ∃ parts, splitPort false s = parts := ⟨_, rfl⟩
  by_cases nonempty : hostText = []
  · unfold serverOf at h
    rw [parts] at h
    dsimp only at h
    rw [if_pos special, if_pos (by simpa using nonempty)] at h
    cases h
  · cases parsed : Host.parse hostText with
    | error cause =>
      unfold serverOf at h
      rw [parts] at h
      dsimp only at h
      rw [if_pos special, if_neg (by simpa using nonempty), parsed] at h
      cases h
    | ok host =>
      rw [serverOf_of_host special userinfo parts nonempty parsed] at h
      cases read : readPortText scheme portText with
      | error cause =>
        rw [read] at h
        cases h
      | ok port =>
        rw [read] at h
        obtain rfl := Except.ok.inj h
        exact ⟨fit, ⟨host, rfl, Host.isRead_of_parse parsed⟩, ne_default_of_readPortText read⟩

theorem isServer_of_readServer {scheme : List Char} {ended : Bool} {server : Server}
    (special : isSpecial scheme = true) (h : readServer scheme ended s = .ok server) :
    IsServer scheme server := by
  unfold readServer at h
  split at h
  · exact isServer_of_serverOf special Userinfo.isFit_anonymous h
  · split at h
    · cases h
    · exact isServer_of_serverOf special Userinfo.isFit_anonymous h
  · exact isServer_of_serverOf special (Userinfo.isFit_readUserinfo _) h

/-! ### Reading the text of a server -/

theorem splitUserinfo?_of_not_mem (h : ∀ c ∈ s, (c != '@') = true) : splitUserinfo? s = none := by
  have all : s.reverse.takeWhile (· != '@') = s.reverse :=
    List.takeWhile_eq_self_iff.mpr fun c there => h c (List.mem_reverse.mp there)
  rw [splitUserinfo?, all]
  simp

/-- The last at sign divides. -/
theorem splitUserinfo?_append (front : List Char) (h : ∀ c ∈ s, (c != '@') = true) :
    splitUserinfo? (front ++ '@' :: s) = some (front, s) := by
  have behind : ((front ++ '@' :: s).reverse.takeWhile (· != '@')).reverse = s := by
    have reversed : (front ++ '@' :: s).reverse = s.reverse ++ '@' :: front.reverse := by simp
    rw [reversed, List.takeWhile_append_of_pos fun c there => h c (List.mem_reverse.mp there)]
    simp
  have length : (front ++ '@' :: s).length = front.length + (s.length + 1) := by simp
  rw [splitUserinfo?, behind, length]
  have more : s.length ≠ front.length + (s.length + 1) := by omega
  have rest : front.length + (s.length + 1) - s.length - 1 = front.length := by omega
  simp only [more, if_false, rest, List.take_left']

/-- The text of a host and a port. -/
def Server.hostText (server : Server) : List Char :=
  (server.host.map Host.text).getD [] ++ portText server.port

/-- The text of a server. -/
def Server.chars (server : Server) : List Char :=
  server.userinfo.text ++ server.hostText

theorem mem_portText {port : Option UInt16} (h : c ∈ portText port) :
    c = ':' ∨ ∃ d < 10, c = Nat.digitChar d := by
  cases port with
  | none => cases h
  | some p =>
    obtain rfl | there := List.mem_cons.mp h
    · exact .inl rfl
    · exact .inr (Digits.exists_of_mem_toDigits (by decide) there)

theorem not_isBoundary_of_userinfo (h : Percent.userinfo c = false) :
    Host.isBoundary c = false := by
  simp only [Percent.userinfo, Percent.path, Percent.fragment, Percent.control, Host.isBoundary,
    List.contains_eq_mem, List.mem_cons, List.not_mem_nil, Bool.or_eq_false_iff,
    decide_eq_false_iff_not, not_or] at h ⊢
  have blank : c.toNat ≠ 0x20 := by
    intro number
    exact h.1.1.2.1 (Char.toNat_inj.mp number)
  refine ⟨⟨?_, h.1.1.1.2⟩, ?_⟩
  · have := h.1.1.1.1
    omega
  · simp [h]

variable {scheme : List Char} {server : Server}

namespace IsServer

theorem not_isBoundary_hostText (h : IsServer scheme server) :
    ∀ c ∈ server.hostText, Host.isBoundary c = false := by
  obtain ⟨host, named, read⟩ := h.host
  intro c there
  rw [Server.hostText, named] at there
  obtain there | there := List.mem_append.mp there
  · exact read.not_isBoundary c there
  · obtain rfl | ⟨d, small, rfl⟩ := mem_portText there
    · decide
    · have all : ∀ d < 10, Host.isBoundary (Nat.digitChar d) = false := by decide
      exact all d small

/-- The only boundary in a server is the one that is written behind a user. -/
theorem mem_chars (h : IsServer scheme server) :
    ∀ c ∈ server.chars, c = '@' ∨ Host.isBoundary c = false := by
  intro c there
  obtain there | there := List.mem_append.mp there
  · obtain ⟨-, nobody⟩ | ⟨-, -, somebody⟩ := server.userinfo.text_eq
    · rw [nobody] at there
      cases there
    · rw [somebody] at there
      obtain there | last := List.mem_append.mp there
      · obtain rfl | fit := h.userinfo.mem_inner c there
        · exact .inr (by decide)
        · exact .inr (not_isBoundary_of_userinfo fit)
      · exact .inl (List.mem_singleton.mp last)
  · exact .inr (h.not_isBoundary_hostText c there)

/-- The port is divided off where it has been added. -/
theorem splitPort_hostText (h : IsServer scheme server) {host : Host}
    (named : server.host = some host) :
    splitPort false server.hostText = (host.text, portText server.port) := by
  obtain ⟨_, same, read⟩ := h.host
  obtain rfl := Option.some.inj (named.symm.trans same)
  have ends : ∀ c ∈ (portText server.port).head?, c = ':' := by
    cases server.port with
    | none => simp [portText]
    | some p => simp [portText]
  rw [Server.hostText, named]
  exact read.splitPort_text ends

theorem serverOf_hostText (h : IsServer scheme server) (special : isSpecial scheme = true) :
    serverOf scheme server.userinfo server.hostText = .ok server := by
  obtain ⟨host, named, read⟩ := h.host
  rw [serverOf_of_host special _ (h.splitPort_hostText named) read.text_ne_nil read.parse_text,
    readPortText_portText h.port]
  show Except.ok (⟨server.userinfo, some host, server.port⟩ : Server) = .ok server
  rw [← named]

/-- What is before the port and what divides the user off are read back. -/
theorem splitUserinfo?_chars (h : IsServer scheme server) :
    splitUserinfo? server.chars =
        (if server.userinfo = .anonymous then none
          else some (server.userinfo.inner, server.hostText)) := by
  have noSign : ∀ c ∈ server.hostText, (c != '@') = true := by
    intro c there
    rw [bne_iff_ne]
    rintro rfl
    exact absurd (h.not_isBoundary_hostText _ there) (by decide)
  obtain ⟨anonymous, nobody⟩ | ⟨other, -, somebody⟩ := server.userinfo.text_eq
  · rw [Server.chars, nobody, if_pos anonymous]
    exact splitUserinfo?_of_not_mem noSign
  · rw [Server.chars, somebody, if_neg other, List.append_assoc]
    exact splitUserinfo?_append _ noSign

/-- The text of a server is read as this server. -/
theorem readServer_chars (h : IsServer scheme server) (special : isSpecial scheme = true)
    (ended : Bool) : readServer scheme ended server.chars = .ok server := by
  have behind := h.serverOf_hostText special
  unfold readServer
  rw [h.splitUserinfo?_chars]
  obtain ⟨anonymous, nobody⟩ | ⟨other, nonempty, -⟩ := server.userinfo.text_eq
  · rw [if_pos anonymous]
    dsimp only
    rw [Server.chars, nobody, ← anonymous]
    exact behind
  · rw [if_neg other]
    obtain ⟨c, user, inner⟩ := List.exists_cons_of_ne_nil nonempty
    have user := h.userinfo.readUserinfo_inner
    rw [inner] at user ⊢
    dsimp only
    rw [user]
    exact behind

theorem not_endsServer_chars (h : IsServer scheme server) :
    ∀ c ∈ server.chars, endsServer true c = false := by
  intro c there
  obtain rfl | inner := h.mem_chars c there
  · decide
  · simp only [Host.isBoundary, Bool.or_eq_false_iff, List.contains_eq_mem,
      decide_eq_false_iff_not, List.mem_cons, List.not_mem_nil, not_or] at inner
    simp [endsServer, isSlash, inner]

/-- In front of a slash the text of a server ends where the server does. -/
theorem serverText_chars (h : IsServer scheme server) (rest : List Char) :
    serverText true (server.chars ++ '/' :: rest) = server.chars := by
  have inside : ∀ c ∈ server.chars, (!endsServer true c) = true := fun c there => by
    rw [h.not_endsServer_chars c there]
    rfl
  have text : (server.chars ++ '/' :: rest).takeWhile (fun c => !endsServer true c) =
      server.chars := by
    rw [List.takeWhile_append_of_pos inside]
    simp [endsServer, isSlash]
  have behindUser : ((splitUserinfo? server.chars).map Prod.snd).getD server.chars =
      server.hostText := by
    rw [h.splitUserinfo?_chars]
    obtain ⟨anonymous, nobody⟩ | ⟨other, -, -⟩ := server.userinfo.text_eq
    · rw [if_pos anonymous, Server.chars, nobody]
      rfl
    · rw [if_neg other]
      rfl
  have beyond : (splitPort false server.hostText).2.dropWhile (fun c => c != '\\') = [] := by
    obtain ⟨host, named, -⟩ := h.host
    rw [h.splitPort_hostText named, List.dropWhile_eq_nil_iff]
    intro c there
    obtain rfl | ⟨d, small, rfl⟩ := mem_portText there
    · decide
    · have all : ∀ d < 10, (Nat.digitChar d != '\\') = true := by decide
      exact all d small
  rw [serverText, text, behindUser, beyond]
  simp

end IsServer

end Url

end EvalConsole
