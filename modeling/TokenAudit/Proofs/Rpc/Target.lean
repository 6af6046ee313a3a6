import TokenAudit.Proofs.Url.Site
import TokenAudit.Rpc.Target

/-! # Targets that lead to the same place

Whether a request can be made to an address, and for what reason not, hangs on where the address
leads and on its length. A refusal shows the address as a whole, and so does a fault that comes of a
request to a target.

* `Target.Shows` — how an address is shown;
* `Target.parse_of_unreadable`, `Target.parse_of_hostless`, `Target.parse_of_host` — all that an
  address can come to;
* `Target.Alike` — two addresses come to the same but for what they show.

Main statement: `Target.parse_alike`. -/

namespace TokenAudit

namespace Target

/-- Whether a text is how an address is shown: as it was read, or without its user. -/
def Shows (address shown : String) : Prop :=
  ∃ url, Url.parse address = .ok url ∧ (shown = url.toText ∨ shown = (withoutUser url).toText)

/-- Whether an address is not too long for a request. -/
def IsShort (address : String) : Prop :=
  ∀ url, Url.parse address = .ok url → (withoutUser url).toText.utf8ByteSize ≤ maxBytes

/-- What two addresses come to if one of them is as good as the other: they are refused in the same
way, or both are targets. -/
inductive Alike (one two : String) : Except Refusal Target → Except Refusal Target → Prop
  | unreadable (flaw : Url.Flaw) :
    Alike one two (.error (.unreadable flaw)) (.error (.unreadable flaw))
  | scheme {a b : String} (ha : Shows one a) (hb : Shows two b) :
    Alike one two (.error (.scheme a)) (.error (.scheme b))
  | text {a b : String} (ha : Shows one a) (hb : Shows two b) :
    Alike one two (.error (.text a)) (.error (.text b))
  | target {s t : Target} (hs : Shows one s.url.toText) (ht : Shows two t.url.toText) :
    Alike one two (.ok s) (.ok t)

/-- A value is left alone where faults are mapped. -/
theorem mapError_ok {ε ε' : Type} (f : ε → ε') (a : α) : (Except.ok a).mapError f = .ok a := rfl

/-- Of two addresses that come to the same, both are targets or neither is. -/
theorem Alike.toBool_eq {one two : String} {first second : Except Refusal Target}
    (h : Alike one two first second) : first.toBool = second.toBool := by
  cases h <;> rfl

/-- An address that cannot be read is refused for that. -/
theorem parse_of_unreadable {address : String} {flaw : Url.Flaw}
    (h : Url.parse address = .error flaw) : parse address = .error (.unreadable flaw) := by
  rw [parse, h]
  rfl

/-- Leaving out the user leaves the scheme alone. -/
theorem scheme_withoutUser (url : Url) : (withoutUser url).scheme = url.scheme := by
  unfold withoutUser
  split
  · rfl
  · split <;> rfl

/-- An address that leads to a host names one. -/
theorem exists_host {url : Url} (h : url.hasHost = true) : ∃ host, url.host = some host := by
  rw [Url.hasHost] at h
  cases hname : url.host with
  | none => rw [hname] at h; cases h
  | some host => exact ⟨host, rfl⟩

/-- An address that names no host is refused for its scheme. -/
theorem parse_of_hostless {address : String} {url : Url} (h : Url.parse address = .ok url)
    (hhost : url.hasHost = false) : parse address = .error (.scheme url.toText) := by
  rw [parse, h, mapError_ok]
  simp only [bind, Except.bind]
  cases hname : url.host with
  | none => rfl
  | some host =>
    rw [hhost]
    rfl

/-- An address that names a host is a target if its scheme is for requests and it can stand in
one. -/
theorem parse_of_host {address : String} {url : Url} {host : Host} (h : Url.parse address = .ok url)
    (hname : url.host = some host) (hhost : url.hasHost = true) :
    parse address =
      if url.scheme ≠ "http" ∧ url.scheme ≠ "https" then .error (.scheme (withoutUser url).toText)
      else if isSendable (withoutUser url) host then .ok ⟨withoutUser url, host⟩
      else .error (.text (withoutUser url).toText) := by
  rw [parse, h, mapError_ok]
  simp only [bind, Except.bind, hname, hhost, scheme_withoutUser]
  by_cases hscheme : url.scheme ≠ "http" ∧ url.scheme ≠ "https"
  · rw [if_pos hscheme, if_pos hscheme]
    rfl
  · rw [if_neg hscheme, if_neg hscheme]
    cases isSendable (withoutUser url) host <;> rfl

/-- The address of a file is refused for its scheme. -/
theorem parse_of_file {address : String} {url : Url} (h : Url.parse address = .ok url)
    (hfile : url.scheme = Url.fileScheme) :
    ∃ shown, Shows address shown ∧ parse address = .error (.scheme shown) := by
  cases hhost : url.hasHost with
  | false => exact ⟨_, ⟨url, h, Or.inl rfl⟩, parse_of_hostless h hhost⟩
  | true =>
    obtain ⟨host, hname⟩ := exists_host hhost
    refine ⟨_, ⟨url, h, Or.inr rfl⟩, ?_⟩
    rw [parse_of_host h hname hhost, hfile, if_pos (by decide)]

/-- **Addresses that lead to the same place** come to the same, as long as they are not too long. -/
theorem parse_alike {one two : String}
    (h : (Url.parse one).map Url.site = (Url.parse two).map Url.site) (hone : IsShort one)
    (htwo : IsShort two) : Alike one two (parse one) (parse two) := by
  cases hparse : Url.parse one with
  | error flaw =>
    cases hother : Url.parse two with
    | ok v => rw [hparse, hother] at h; cases h
    | error flaw' =>
      rw [hparse, hother] at h
      cases h
      rw [parse_of_unreadable hparse, parse_of_unreadable hother]
      exact .unreadable flaw
  | ok u =>
    cases hother : Url.parse two with
    | error flaw => rw [hparse, hother] at h; cases h
    | ok v =>
      rw [hparse, hother] at h
      have hsite : u.site = v.site := Except.ok.inj h
      have hscheme : u.scheme = v.scheme := by rw [← Url.scheme_site u, hsite, Url.scheme_site]
      by_cases hfile : u.scheme = Url.fileScheme
      · obtain ⟨a, ha, hrefuses⟩ := parse_of_file hparse hfile
        obtain ⟨b, hb, hrefuses'⟩ := parse_of_file hother (hscheme ▸ hfile)
        rw [hrefuses, hrefuses']
        exact .scheme ha hb
      have hhost : u.host = v.host := by
        rw [← Url.host_site hfile, hsite, Url.host_site (hscheme ▸ hfile)]
      have hhas : u.hasHost = v.hasHost := by rw [Url.hasHost, hhost, ← Url.hasHost]
      cases hsome : u.hasHost with
      | false =>
        rw [parse_of_hostless hparse hsome, parse_of_hostless hother (hhas ▸ hsome)]
        exact .scheme ⟨u, hparse, Or.inl rfl⟩ ⟨v, hother, Or.inl rfl⟩
      | true =>
        obtain ⟨host, hname⟩ := exists_host hsome
        -- with lengths out of the way, it is the host alone that makes an address one that can be
        -- sent
        have hsend : isSendable (withoutUser u) host = isSendable (withoutUser v) host := by
          rw [isSendable, isSendable, decide_eq_true (hone u hparse),
            decide_eq_true (htwo v hother)]
        rw [parse_of_host hparse hname hsome,
          parse_of_host hother (hhost ▸ hname) (hhas ▸ hsome), hscheme, hsend]
        have hshows : Shows one (withoutUser u).toText := ⟨u, hparse, Or.inr rfl⟩
        have hshows' : Shows two (withoutUser v).toText := ⟨v, hother, Or.inr rfl⟩
        split
        · exact .scheme hshows hshows'
        · split
          · exact .target hshows hshows'
          · exact .text hshows hshows'

end Target

end TokenAudit
