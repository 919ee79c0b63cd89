import Yunbay.Fetch.Download

/-!
# Other spellings of a host

An IPv6 address with a zone is not an address for `net.ParseIP`, so `ValidateURL` takes it for a
name, and looks at its address only if the addresses of names are filtered. The list of domains is
compared with the text of the host, so a name with a dot at its end is another name. The dialer
connects to both.
-/

namespace Yunbay

open Except SSRFProtection

/-- The text without the dot at its end. -/
def undotted (name : List Char) : List Char :=
  if name.getLast? = some '.' then name.dropLast else name

/-- The host is the listed name or lies below the listed wildcard, up to case and a dot at the
end. -/
def SpelledAs (env : FetchEnv) (host : List Char) (item : String) : Prop :=
  let name := undotted (env.toLower (String.ofList host)).toList
  let listed := undotted (env.toLower (trimSpace item)).toList
  listed ≠ [] ∧ (name = listed ∨
    ∃ front suffix, listed = '*' :: '.' :: suffix ∧ name = front ++ '.' :: suffix)

/-- The host and the entry of the list both end in a dot, or neither does. -/
def SameEnd (env : FetchEnv) (host : List Char) (item : String) : Prop :=
  (env.toLower (String.ofList host)).toList.getLast? = some '.' ↔
    (env.toLower (trimSpace item)).toList.getLast? = some '.'

section

variable {env : FetchEnv} {p : SSRFProtection} {host : List Char} {t : Nat}

/-- Texts with the same end lose the same end. -/
lemma exists_tail {name item : List Char}
    (h : name.getLast? = some '.' ↔ item.getLast? = some '.') :
    ∃ tail, name = undotted name ++ tail ∧ item = undotted item ++ tail := by
  by_cases hdot : name.getLast? = some '.'
  · have hitem := h.mp hdot
    refine ⟨['.'], ?_, ?_⟩
    · rw [undotted, if_pos hdot, List.dropLast_append_getLast? '.' hdot]
    · rw [undotted, if_pos hitem, List.dropLast_append_getLast? '.' hitem]
  · exact ⟨[], by simp [undotted, hdot], by simp [undotted, mt h.mpr hdot]⟩

/-- With the same end the list has the name as it is written. -/
lemma domainMatches_of_spelledAs {item : String} (h : SpelledAs env host item)
    (hend : SameEnd env host item) :
    domainMatches env (env.toLower (String.ofList host)) item = true := by
  obtain ⟨hne, h⟩ := h
  obtain ⟨tail, hname, hitem⟩ := exists_tail hend
  simp only [domainMatches, decide_eq_true_eq, ne_eq, ← String.toList_inj]
  rcases h with hsame | ⟨front, suffix, hwild, hbelow⟩
  · refine ⟨?_, .inl ?_⟩
    · intro hempty
      rw [hempty] at hne
      exact hne rfl
    · rw [hname, hsame, ← hitem]
  · rw [hname, hitem, hwild, hbelow]
    simp

lemma validateURL_ok_iff {u : URL} {text : String} (hparse : env.parseURL text = some u) :
    p.validateURL env text t = .ok () ↔
      p.AdmitsPort u ∧ p.validateHost env u.hostname t = .ok () := by
  unfold validateURL
  simp only [hparse, bind_eq_ok, check_eq_ok, exists_const, SSRFProtection.AdmitsPort,
    hostAndPort_fst]
  cases atoi (hostAndPort u).2 with
  | none => simp
  | some port => simp [bind_eq_ok, and_assoc]

/-- A private address is let through if it has a zone, the list has nothing against its text, and
the addresses of names are not filtered. -/
lemma validateHost_literal (hprivate : p.allowPrivateIp = false) {literal : Literal}
    (hliteral : parseAddr host = some literal) (hip : isPrivateIP literal.ip = true) :
    p.validateHost env host t = .ok () ↔
      parseIP host = none ∧ p.isDomainAllowed env (String.ofList host) = true ∧
        p.applyIPFilterForDomain = false := by
  have hdenied : p.isIPAccessAllowed literal.ip = false := by
    simp [isIPAccessAllowed, hip, hprivate]
  have hne : host ≠ [] := by
    rintro rfl
    cases hliteral
  unfold validateHost
  cases hparse : parseIP host with
  | some ip =>
    obtain ⟨_, hother, rfl⟩ := parseAddr_of_parseIP hparse
    obtain rfl := Option.some.inj (hliteral.symm.trans hother)
    simp [check_eq_ok, hdenied]
  | none =>
    cases hfilter : p.applyIPFilterForDomain with
    | false => simp [check_eq_ok]
    | true => simp [bind_eq_ok, check_eq_ok, lookupIP, hne, hliteral, checkResolved_eq_ok, hdenied]

/-- On a blacklist a name is let through if it is not listed as it is written, and its addresses
are allowed. -/
lemma validateHost_name (hblacklist : p.domainFilterMode = false) (hname : parseAddr host = none) :
    p.validateHost env host t = .ok () ↔
      isDomainListed env (String.ofList host) p.domainList = false ∧
        (p.applyIPFilterForDomain = true → ∃ ips, lookupIP env host t = some ips ∧
          ∀ ip ∈ ips, p.isIPAccessAllowed ip = true) := by
  have hparse : parseIP host = none := by
    rw [parseIP, hname]
  unfold validateHost
  simp only [hparse, bind_eq_ok, check_eq_ok, exists_const, isDomainAllowed,
    hblacklist]
  cases p.applyIPFilterForDomain with
  | false => simp
  | true =>
    cases hlookup : lookupIP env host t with
    | none => simp
    | some ips => simp [checkResolved_eq_ok]

end

/-- A URL whose host is a private address is rejected exactly if its port is, if it has no zone, if
the list of domains rejects its text, or if the addresses of names are filtered. One whose host is a
blacklisted name up to case and a dot at the end is rejected if it has the end of the listed name,
and otherwise exactly if its port, its text or its addresses are. -/
theorem url_filters_iff (p : SSRFProtection) (env : FetchEnv) (text : String) (u : URL) (t : Nat)
    (hparse : env.parseURL text = some u) :
    (∀ literal, p.allowPrivateIp = false → parseAddr u.hostname = some literal →
      isPrivateIP literal.ip = true →
      (p.validateURL env text t ≠ .ok () ↔
        ¬(p.AdmitsPort u ∧ parseIP u.hostname = none ∧
          p.isDomainAllowed env (String.ofList u.hostname) = true ∧
          p.applyIPFilterForDomain = false))) ∧
    (∀ item ∈ p.domainList, p.domainFilterMode = false → parseAddr u.hostname = none →
      SpelledAs env u.hostname item →
      (p.validateURL env text t ≠ .ok () ↔
        ¬(p.AdmitsPort u ∧ ¬SameEnd env u.hostname item ∧
          SSRFProtection.isDomainListed env (String.ofList u.hostname) p.domainList = false ∧
          (p.applyIPFilterForDomain = true → ∃ ips, lookupIP env u.hostname t = some ips ∧
            ∀ ip ∈ ips, p.isIPAccessAllowed ip = true)))) := by
  constructor
  · intro literal hprivate hliteral hip
    rw [ne_eq, validateURL_ok_iff hparse, validateHost_literal hprivate hliteral hip]
  · intro item hitem hblacklist hname hspelled
    rw [ne_eq, validateURL_ok_iff hparse, validateHost_name hblacklist hname]
    have hend (hunlisted : SSRFProtection.isDomainListed env (String.ofList u.hostname)
        p.domainList = false) : ¬SameEnd env u.hostname item := by
      intro hend
      have hmatch := domainMatches_of_spelledAs hspelled hend
      rw [SSRFProtection.isDomainListed, List.any_eq_false] at hunlisted
      exact hunlisted item hitem hmatch
    exact not_congr ⟨fun ⟨hport, hunlisted, h⟩ => ⟨hport, hend hunlisted, hunlisted, h⟩,
      fun ⟨hport, _, h⟩ => ⟨hport, h⟩⟩

/-- A network in which names have a public address. -/
def spellingEnv : FetchEnv where
  __ := sampleFetchEnv fun _ _ => some [.v4 (ipv4 93 184 216 34)]
  parseURL text :=
    if text = "http://[fe80::1%25eth0]/" then some ⟨"http", "[fe80::1%eth0]".toList, by
      intro name port h
      cases h⟩
    else if text = "http://bad.test./" then some ⟨"http", "bad.test.".toList, by
      intro name port h
      cases h⟩
    else none

/-- The blacklist has one name. -/
def oneDomainListed (applyIPFilterForDomain : Bool) : SSRFProtection :=
  ⟨false, false, ["bad.test"], false, [], [], applyIPFilterForDomain⟩

theorem zone_filtered :
    (oneDomainListed true).validateURL spellingEnv "http://[fe80::1%25eth0]/" 0 ≠ .ok () :=
  ((url_filters_iff (oneDomainListed true) spellingEnv "http://[fe80::1%25eth0]/" _ 0 rfl).1
    _ rfl rfl (by decide)).mpr (by simp [oneDomainListed])

/-- A private address with a zone and a blacklisted name with a dot at its end are let through. -/
theorem spelled_around :
    (oneDomainListed false).validateURL spellingEnv "http://[fe80::1%25eth0]/" 0 = .ok () ∧
      (parseAddr "fe80::1%eth0".toList).map (fun literal => isPrivateIP literal.ip) = some true ∧
      (oneDomainListed true).validateURL spellingEnv "http://bad.test./" 0 = .ok () := by
  refine ⟨?_, ?_, ?_⟩ <;> decide +kernel

end Yunbay
