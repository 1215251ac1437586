import X402Verifier.RateLimitReference

/-!
# From a peer to its bucket

Envoy reports the peer as `ip:port` or `[ip]:port`. The host is what precedes the last colon, without
brackets; a printed address has colons of its own but no brackets, so the address is read back
whatever the port is (`parseHost_peerText`).

The key of a bucket joins the policy's label, the address and a window's start with separators that
the label may contain too. The start is digits and the address has no bar, so a key is read from the
right, and says all three (`counterKey_inj`, `keyFor_inj`).
-/

namespace X402Verifier

open RustStd RedisRateLimiter

/-! ## Buckets -/

/-- One bucket: the same IPv4 address, or IPv6 addresses in one /64. -/
inductive SameBucket : IpAddr → IpAddr → Prop
  | v4 (octets : Vector UInt8 4) : SameBucket (.v4 octets) (.v4 octets)
  | v6 {segments segments' : Vector UInt16 8} (h : ∀ i (hi : i < 4), segments[i] = segments'[i]) :
      SameBucket (.v6 segments) (.v6 segments')

theorem bucket_eq_iff {ip ip' : IpAddr} : bucket ip = bucket ip' ↔ SameBucket ip ip' := by
  cases ip with
  | v4 octets =>
    cases ip' with
    | v4 octets' =>
      constructor
      · intro h
        cases h
        exact .v4 octets
      · intro h
        cases h
        rfl
    | v6 segments' => exact ⟨nofun, nofun⟩
  | v6 segments =>
    cases ip' with
    | v4 octets' => exact ⟨nofun, nofun⟩
    | v6 segments' =>
      constructor
      · intro h
        refine .v6 fun i hi => ?_
        have hsegments := IpAddr.v6.inj h
        have hi' : i = 0 ∨ i = 1 ∨ i = 2 ∨ i = 3 := by omega
        simp only [Vector.mk.injEq, Array.mk.injEq, List.cons.injEq] at hsegments
        rcases hi' with rfl | rfl | rfl | rfl <;> simp_all
      · rintro ⟨⟩
        rename_i h
        simp only [bucket, h 0 (by decide), h 1 (by decide), h 2 (by decide), h 3 (by decide)]

/-! ## Host and port -/

theorem beforeLast_append {c : Char} (s : List Char) {t : List Char} (h : c ∉ t) :
    beforeLast c (s ++ c :: t) = s := by
  have hdrop : (t.reverse ++ c :: s.reverse).dropWhile (· ≠ c) = c :: s.reverse := by
    rw [List.dropWhile_append_of_pos fun x hx => ?_]
    · simp
    · have hne : x ≠ c := fun heq => h (heq ▸ List.mem_reverse.mp hx)
      simpa using hne
  simp only [beforeLast, List.mem_append, List.mem_cons, true_or, or_true, if_true,
    List.reverse_append, List.reverse_cons, List.append_assoc, List.singleton_append, hdrop,
    List.drop_succ_cons, List.drop_zero, List.reverse_reverse]

theorem dropWhile_of_not_mem {c : Char} {s : List Char} (h : c ∉ s) :
    s.dropWhile (· == c) = s := by
  cases s with
  | nil => rfl
  | cons a s =>
    have hne : a ≠ c := fun heq => h (heq ▸ List.mem_cons_self)
    rw [List.dropWhile_cons_of_neg (by simpa using hne)]

/-! ## The peer's address -/

/-- The peer as Envoy writes it. -/
inductive PeerText (ip : IpAddr) (port : Nat) : String → Prop
  | plain : PeerText ip port (ipAddrToString ip ++ ":" ++ toString port)
  | bracketed : PeerText ip port ("[" ++ ipAddrToString ip ++ "]:" ++ toString port)

/-- **The peer is read back.** -/
theorem parseHost_peerText {ip : IpAddr} {port : Nat} {text : String}
    (htext : PeerText ip port text) : parseHost text = some ip := by
  have hport : ':' ∉ (toString port).toList := not_mem_toString (by decide) port
  have hopen : '[' ∉ (ipAddrToString ip).toList :=
    not_mem_ipAddrToString (by decide) (by decide) (by decide) ip
  have hclose : ']' ∉ (ipAddrToString ip).toList :=
    not_mem_ipAddrToString (by decide) (by decide) (by decide) ip
  have hclose' : ']' ∉ (ipAddrToString ip).toList.reverse := by simpa using hclose
  cases htext with
  | plain =>
    have hlist : (ipAddrToString ip ++ ":" ++ toString port).toList =
        (ipAddrToString ip).toList ++ ':' :: (toString port).toList := by simp
    rw [parseHost, hlist, beforeLast_append _ hport, dropWhile_of_not_mem hopen,
      dropWhile_of_not_mem hclose', List.reverse_reverse, String.ofList_toList, parseIpAddr_ipAddrToString]
  | bracketed =>
    have hlist : ("[" ++ ipAddrToString ip ++ "]:" ++ toString port).toList =
        ('[' :: (ipAddrToString ip).toList ++ [']']) ++ ':' :: (toString port).toList := by simp
    have htrim : (('[' :: (ipAddrToString ip).toList ++ [']']).dropWhile (· == '[')) =
        (ipAddrToString ip).toList ++ [']'] := by
      rw [List.cons_append, List.dropWhile_cons_of_pos (by decide)]
      exact dropWhile_of_not_mem (by simpa using hopen)
    rw [parseHost, hlist, beforeLast_append _ hport, htrim, List.reverse_append,
      List.reverse_singleton, List.singleton_append, List.dropWhile_cons_of_pos (by decide),
      dropWhile_of_not_mem hclose', List.reverse_reverse, String.ofList_toList, parseIpAddr_ipAddrToString]

/-- The attributes report this peer: some group gives its text, and no group gives another. -/
structure ReportsPeer (attributes : Attributes) (ip : IpAddr) (port : Nat) (text : String) :
    Prop where
  written : PeerText ip port text
  given : ∃ group ∈ attributes.toPairs, group.2.get? "source.address" = some (.string text)
  only : ∀ group ∈ attributes.toPairs, ∀ s,
    group.2.get? "source.address" = some (.string s) → s = text

theorem clientIp_of_reports {attributes : Attributes} {ip : IpAddr} {port : Nat}
    {text : String} (hreports : ReportsPeer attributes ip port text) :
    clientIpFromAttributes attributes = some ip := by
  have hfound : attributes.findString "source.address" = some text := by
    unfold Attributes.findString
    generalize hfind : List.findSome? _ attributes.toPairs = found
    cases found with
    | none =>
      obtain ⟨group, hmem, hget⟩ := hreports.given
      have hnone := List.findSome?_eq_none_iff.mp hfind group hmem
      simp [hget] at hnone
    | some s =>
      obtain ⟨⟨filter, fields⟩, hmem, hs⟩ := List.exists_of_findSome?_eq_some hfind
      dsimp only at hs
      split at hs
      · rename_i s' hget
        obtain rfl := Option.some.inj hs
        rw [hreports.only _ hmem _ hget]
      · cases hs
  rw [clientIpFromAttributes, hfound, Option.bind_some, parseHost_peerText hreports.written]

/-- **One bucket for one client.** The peer's address is what Envoy reported, and two peers meet in a
bucket exactly if the labels are equal and they are one IPv4 address or in one /64; in a counter of
Redis, if the windows are the same too. -/
theorem peers_share_bucket_iff {attributes attributes' : Attributes} {ip ip' : IpAddr}
    {port port' : Nat} {text text' : String} (hreports : ReportsPeer attributes ip port text)
    (hreports' : ReportsPeer attributes' ip' port' text') (label label' : String) (start start' : Nat) :
    clientIpFromAttributes attributes = some ip ∧ clientIpFromAttributes attributes' = some ip' ∧
    (keyFor label ip = keyFor label' ip' ↔ label = label' ∧ SameBucket ip ip') ∧
    (counterKey (keyFor label ip) start = counterKey (keyFor label' ip') start' ↔
      label = label' ∧ start = start' ∧ SameBucket ip ip') := by
  have hkey : keyFor label ip = keyFor label' ip' ↔ label = label' ∧ SameBucket ip ip' := by
    rw [keyFor_inj, clientOf, clientOf, Prod.mk.injEq, bucket_eq_iff]
  refine ⟨clientIp_of_reports hreports, clientIp_of_reports hreports', hkey, ?_⟩
  rw [counterKey_inj, hkey]
  tauto

/-! ## Two peers -/

/-- Attributes as Envoy 1.39 sends them. -/
def peerAttributes (text : String) : Attributes :=
  (∅ : Attributes).insert "envoy.filters.http.ext_proc"
    ((∅ : Table String AttributeValue).insert "source.address" (.string text))

theorem toPairs_peerAttributes (text : String) : (peerAttributes text).toPairs =
    [("envoy.filters.http.ext_proc",
      (∅ : Table String AttributeValue).insert "source.address" (.string text))] := rfl

theorem reportsPeer_peerAttributes {ip : IpAddr} {port : Nat} {text : String}
    (h : PeerText ip port text) : ReportsPeer (peerAttributes text) ip port text where
  written := h
  given := by simp [toPairs_peerAttributes]
  only := by
    intro group hmem s hs
    rw [toPairs_peerAttributes, List.mem_singleton] at hmem
    subst hmem
    simpa using hs.symm

/-- Two addresses of one /64. -/
def firstHost : IpAddr := .v6 #v[0x2001, 0xdb8, 0, 0, 0, 0, 0, 1]

def secondHost : IpAddr := .v6 #v[0x2001, 0xdb8, 0, 0, 1, 2, 3, 4]

/-- Two peers of one /64, and one of IPv4 under a label that contains what separates it from the
address. -/
theorem peers_share_bucket_iff_example :
    (clientIpFromAttributes (peerAttributes "[2001:db8::1]:59118") = some firstHost ∧
      clientIpFromAttributes (peerAttributes "[2001:db8::1:2:3:4]:80") = some secondHost ∧
      (keyFor "a" firstHost = keyFor "a" secondHost ↔ "a" = "a" ∧ SameBucket firstHost secondHost) ∧
      (counterKey (keyFor "a" firstHost) 60 = counterKey (keyFor "a" secondHost) 120 ↔
        "a" = "a" ∧ 60 = 120 ∧ SameBucket firstHost secondHost)) ∧
    clientIpFromAttributes (peerAttributes "192.0.2.1:59118") = some exampleAddress ∧
      clientIpFromAttributes (peerAttributes "192.0.2.1:80") = some exampleAddress ∧
      (keyFor "a|192.0.2.1" exampleAddress = keyFor "a" exampleAddress ↔
        "a|192.0.2.1" = "a" ∧ SameBucket exampleAddress exampleAddress) ∧
      (counterKey (keyFor "a|192.0.2.1" exampleAddress) 60 =
          counterKey (keyFor "a" exampleAddress) 60 ↔
        "a|192.0.2.1" = "a" ∧ 60 = 60 ∧ SameBucket exampleAddress exampleAddress) := by
  have hfirst : PeerText firstHost 59118 "[2001:db8::1]:59118" := by
    have htext : "[" ++ ipAddrToString firstHost ++ "]:" ++ toString 59118 =
        "[2001:db8::1]:59118" := by decide +kernel
    exact htext ▸ .bracketed
  have hsecond : PeerText secondHost 80 "[2001:db8::1:2:3:4]:80" := by
    have htext : "[" ++ ipAddrToString secondHost ++ "]:" ++ toString 80 =
        "[2001:db8::1:2:3:4]:80" := by decide +kernel
    exact htext ▸ .bracketed
  have hplain : ∀ port, PeerText exampleAddress port ("192.0.2.1" ++ ":" ++ toString port) := by
    have htext : ipAddrToString exampleAddress = "192.0.2.1" := by decide +kernel
    exact fun port => htext ▸ .plain
  exact ⟨peers_share_bucket_iff (reportsPeer_peerAttributes hfirst)
      (reportsPeer_peerAttributes hsecond) "a" "a" 60 120,
    peers_share_bucket_iff (reportsPeer_peerAttributes (hplain 59118))
      (reportsPeer_peerAttributes (hplain 80)) "a|192.0.2.1" "a" 60 60⟩

end X402Verifier
