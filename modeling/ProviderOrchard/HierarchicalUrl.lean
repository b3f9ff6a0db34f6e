/-
What `url.Parse` reads from a URL written as `scheme://host path?query`: the
scheme (lower-cased), the host, the decoded path and the query come back, when
the host is one `parseHost` returns unchanged and holds no `%`, the path is empty
or absolute, and no part holds a control byte, or a `?` or `#` before the query.
The lemmas follow `parse` stage by stage: fragment cut, control-byte check,
`getScheme`, query cut, authority split, `parseAuthority`, `setPath`.
-/
import ProviderOrchard.NetUrl

namespace ProviderOrchard

namespace Url

/-! ### Bytes

Byte classes as ranges of `toNat`, so that `omega` decides them. -/

theorem toNat_lt_iff (a b : UInt8) : a < b ↔ a.toNat < b.toNat := UInt8.lt_def.trans BitVec.lt_def

theorem toNat_le_iff (a b : UInt8) : a ≤ b ↔ a.toNat ≤ b.toNat := UInt8.le_def.trans BitVec.le_def

theorem toNat_eq_iff (a b : UInt8) : a = b ↔ a.toNat = b.toNat := ⟨congrArg _, UInt8.toNat.inj⟩

/-- A byte `url.Parse` passes over in a path or a query: not a control byte,
`?` or `#`. -/
def OrdinaryByte (b : UInt8) : Prop :=
  0x20 ≤ b.toNat ∧ b.toNat ≠ 0x7F ∧ b.toNat ≠ 0x3F ∧ b.toNat ≠ 0x23

instance (b : UInt8) : Decidable (OrdinaryByte b) := inferInstanceAs (Decidable (_ ∧ _ ∧ _ ∧ _))

/-- A byte that may stand in a host as `url.Parse` reads it: ordinary, and not
`/` or `@`. -/
def HostByte (b : UInt8) : Prop := OrdinaryByte b ∧ b.toNat ≠ 0x2F ∧ b.toNat ≠ 0x40

theorem printable_of_contains {b : UInt8} {l : Bytes}
    (hl : ∀ x ∈ l, 0x20 < x.toNat ∧ x.toNat < 0x7F) (h : l.contains b = true) :
    0x20 < b.toNat ∧ b.toNat < 0x7F :=
  hl b (List.mem_of_elem_eq_true h)

/-- A byte some mode keeps as it is is printable ASCII: every list of
`shouldEscape` holds printable bytes only. -/
theorem printable_of_shouldEscape_eq_false {b : UInt8} {mode : EncodeMode}
    (h : shouldEscape b mode = false) : 0x20 < b.toNat ∧ b.toNat < 0x7F := by
  unfold shouldEscape at h
  split at h
  · next halnum =>
    simp only [Bool.or_eq_true, Bool.and_eq_true, decide_eq_true_eq, toNat_le_iff,
      UInt8.reduceToNat] at halnum
    omega
  split at h
  · next hl => exact printable_of_contains (by decide) (Bool.and_eq_true_iff.mp hl).2
  split at h
  · next hl => exact printable_of_contains (by decide) hl
  split at h
  · next hl => exact printable_of_contains (by decide) hl
  split at h
  · next hl => exact printable_of_contains (by decide) (Bool.and_eq_true_iff.mp hl).2
  · exact absurd h (by decide)

theorem toNat_ne_of_shouldEscape {b c : UInt8} {mode : EncodeMode} (h : shouldEscape b mode = false)
    (hc : shouldEscape c mode = true) : b.toNat ≠ c.toNat := fun heq => by
  rw [UInt8.toNat.inj heq, hc] at h
  cases h

theorem ordinaryByte_of_shouldEscape_pathSegment {b : UInt8}
    (h : shouldEscape b .pathSegment = false) : OrdinaryByte b := by
  have hp := printable_of_shouldEscape_eq_false h
  exact ⟨by omega, by omega, toNat_ne_of_shouldEscape h (c := 0x3F) rfl,
    toNat_ne_of_shouldEscape h (c := 0x23) rfl⟩

/-- A byte that passes the host check of `unescape` may stand in a host. -/
theorem hostByte_of_shouldEscape {b : UInt8} (h : b < 0x80 → shouldEscape b .host = false) :
    HostByte b := by
  by_cases hb : b < 0x80
  · have h := h hb
    have hp := printable_of_shouldEscape_eq_false h
    exact ⟨⟨by omega, by omega, toNat_ne_of_shouldEscape h (c := 0x3F) rfl,
      toNat_ne_of_shouldEscape h (c := 0x23) rfl⟩, toNat_ne_of_shouldEscape h (c := 0x2F) rfl,
      toNat_ne_of_shouldEscape h (c := 0x40) rfl⟩
  · simp only [toNat_lt_iff, UInt8.reduceToNat] at hb
    unfold HostByte OrdinaryByte
    omega

theorem ordinaryByte_of_ishex {b : UInt8} (h : ishex b = true) : OrdinaryByte b := by
  simp only [ishex, Bool.or_eq_true, Bool.and_eq_true, decide_eq_true_eq, toNat_le_iff,
    UInt8.reduceToNat] at h
  unfold OrdinaryByte
  omega

theorem ordinaryByte_of_mem_pathEscape {b : UInt8} {s : Bytes} (h : b ∈ pathEscape s) :
    OrdinaryByte b := by
  rcases mem_pathEscape h with h | rfl | h
  · exact ordinaryByte_of_shouldEscape_pathSegment h
  · decide
  · exact ordinaryByte_of_ishex h

/-- `stringContainsCTLByte` on a string of printable bytes. -/
theorem stringContainsCTLByte_eq_false {s : Bytes} (h : ∀ b ∈ s, 0x20 ≤ b.toNat ∧ b.toNat ≠ 0x7F) :
    stringContainsCTLByte s = false := by
  rw [stringContainsCTLByte, List.any_eq_false]
  intro b hb
  have := h b hb
  simp only [Bool.or_eq_true, decide_eq_true_eq, toNat_lt_iff, UInt8.reduceToNat, not_or]
  exact ⟨by omega, fun heq => this.2 (heq ▸ rfl)⟩

/-! ### Cutting at a byte -/

theorem cut_of_not_mem {sep : UInt8} {s : Bytes} (h : sep ∉ s) : cut sep s = (s, [], false) := by
  induction s with
  | nil => rfl
  | cons b s ih =>
    rw [List.mem_cons, not_or] at h
    rw [cut, if_neg (Ne.symm h.1), ih h.2]

theorem cut_append_cons {sep : UInt8} {s : Bytes} (h : sep ∉ s) (t : Bytes) :
    cut sep (s ++ sep :: t) = (s, t, true) := by
  induction s with
  | nil => simp [cut]
  | cons b s ih =>
    rw [List.mem_cons, not_or] at h
    rw [List.cons_append, cut, if_neg (Ne.symm h.1), ih h.2]

theorem eq_of_cut_eq_true {sep : UInt8} {s a b : Bytes} (h : cut sep s = (a, b, true)) :
    s = a ++ sep :: b := by
  induction s generalizing a with
  | nil => cases h
  | cons c s ih =>
    rw [cut] at h
    split at h
    · next hc =>
      simp only [Prod.mk.injEq] at h
      obtain ⟨rfl, rfl, -⟩ := h
      rw [hc, List.nil_append]
    · rcases hcs : cut sep s with ⟨a', b', f'⟩
      rw [hcs] at h
      simp only [Prod.mk.injEq] at h
      obtain ⟨rfl, rfl, rfl⟩ := h
      rw [ih hcs, List.cons_append]

theorem cutLast_of_not_mem {sep : UInt8} {s : Bytes} (h : sep ∉ s) : cutLast sep s = none := by
  rw [cutLast, cut_of_not_mem (by rwa [List.mem_reverse])]

theorem eq_of_cutLast_eq_some {sep : UInt8} {s a b : Bytes} (h : cutLast sep s = some (a, b)) :
    s = a ++ sep :: b := by
  unfold cutLast at h
  split at h
  · next after before heq =>
    cases h
    rw [← List.reverse_reverse s, eq_of_cut_eq_true heq]
    simp
  · cases h

theorem splitAt_eq_none_of_not_mem {x : UInt8} {pat s : Bytes} (hpat : x ∈ pat) (hs : x ∉ s) :
    splitAt pat s = none := by
  induction s with
  | nil => rw [splitAt, if_neg (List.ne_nil_of_mem hpat)]
  | cons c s ih =>
    rw [splitAt, if_neg (fun hp => hs (hp.subset hpat)),
      ih (fun h => hs (List.mem_cons_of_mem _ h)), Option.map_none']

/-! ### Scheme -/

/-- A scheme `getScheme` reads: an ASCII letter, then letters, digits, `+`, `-`
or `.`. -/
def SchemeName : Bytes → Prop
  | [] => False
  | c :: t => ((0x61 ≤ c && c ≤ 0x7A) || (0x41 ≤ c && c ≤ 0x5A)) = true ∧
      ∀ b ∈ t, ((0x61 ≤ b && b ≤ 0x7A) || (0x41 ≤ b && b ≤ 0x5A) ||
        ((0x30 ≤ b && b ≤ 0x39) || b = 0x2B || b = 0x2D || b = 0x2E)) = true

instance : DecidablePred SchemeName
  | [] => isFalse id
  | _ :: _ => inferInstanceAs (Decidable (_ ∧ ∀ b ∈ _, _))

/-- The loop of `getScheme`, from a non-empty accumulator, reads scheme bytes up
to the colon. -/
theorem getScheme_go_schemeName (rawURL : Bytes) {acc t : Bytes} (hacc : acc ≠ [])
    (ht : ∀ b ∈ t, ((0x61 ≤ b && b ≤ 0x7A) || (0x41 ≤ b && b ≤ 0x5A) ||
        ((0x30 ≤ b && b ≤ 0x39) || b = 0x2B || b = 0x2D || b = 0x2E)) = true) (rest : Bytes) :
    getScheme.go rawURL acc (t ++ 0x3A :: rest) = .ok (acc ++ t, rest) := by
  induction t generalizing acc with
  | nil => simp [getScheme.go, hacc]
  | cons b t ih =>
    have hb := ht b (List.mem_cons_self _ _)
    have ht' := fun x hx => ht x (List.mem_cons_of_mem _ hx)
    rw [List.cons_append, getScheme.go]
    split
    · rw [ih (by simp) ht', List.append_assoc, List.singleton_append]
    · next hl =>
      rw [if_pos (by simpa [hl] using hb), ih (by simp) ht', List.append_assoc,
        List.singleton_append]

theorem getScheme_schemeName {scheme : Bytes} (h : SchemeName scheme) (rest : Bytes) :
    getScheme (scheme ++ 0x3A :: rest) = .ok (scheme, rest) := by
  match scheme, h with
  | c :: t, ⟨hc, ht⟩ =>
    rw [getScheme, List.cons_append, getScheme.go, if_pos hc]
    exact getScheme_go_schemeName _ (by simp) ht rest

theorem ordinaryByte_of_schemeByte {b : UInt8}
    (h : ((0x61 ≤ b && b ≤ 0x7A) || (0x41 ≤ b && b ≤ 0x5A) ||
        ((0x30 ≤ b && b ≤ 0x39) || b = 0x2B || b = 0x2D || b = 0x2E)) = true) :
    OrdinaryByte b := by
  simp only [Bool.or_eq_true, Bool.and_eq_true, decide_eq_true_eq, toNat_le_iff, toNat_eq_iff,
    UInt8.reduceToNat] at h
  unfold OrdinaryByte
  omega

theorem ordinaryByte_of_mem_schemeName {s : Bytes} (h : SchemeName s) :
    ∀ b ∈ s, OrdinaryByte b := by
  match s, h with
  | c :: t, ⟨hc, ht⟩ =>
    exact List.forall_mem_cons.mpr
      ⟨ordinaryByte_of_schemeByte (by rw [hc]; rfl), fun b hb => ordinaryByte_of_schemeByte (ht b hb)⟩

/-! ### Query -/

/-- Without a `?` there is no query. -/
theorem cutQuery_of_not_mem {r : Bytes} (h : 0x3F ∉ r) : cutQuery r = (r, false, []) := by
  rw [cutQuery, if_neg (fun hq => absurd hq.2 (by rw [List.count_eq_zero_of_not_mem h]; decide)),
    cut_of_not_mem h]

/-- A non-empty query after the first `?` is the raw query, and the query is not
forced. -/
theorem cutQuery_append_cons {r q : Bytes} (hr : 0x3F ∉ r) (hq : 0x3F ∉ q) (hne : q ≠ []) :
    cutQuery (r ++ 0x3F :: q) = (r, false, q) := by
  obtain ⟨q', x, rfl⟩ := (List.eq_nil_or_concat q).resolve_left hne
  rw [List.concat_eq_append] at hq ⊢
  have hlast : (r ++ 0x3F :: (q' ++ [x])).getLast? = some x := by
    rw [← List.cons_append, ← List.append_assoc, List.getLast?_concat]
  have hx : x ≠ 0x3F := fun h => hq (h ▸ List.mem_concat_self q' x)
  rw [cutQuery, if_neg (fun hc => hx (Option.some_inj.mp (hlast.symm.trans hc.1))),
    cut_append_cons hr]

/-! ### Decoding and the host -/

section Plain

variable {mode : EncodeMode}

/-- Bytes with no `%` pass the check of a mode that does not check host bytes. -/
theorem unescapeCheck_plain_append {p : Bytes} (hp : 0x25 ∉ p) (hhost : mode ≠ .host)
    (hzone : mode ≠ .zone) (rest : Bytes) :
    unescapeCheck mode (p ++ rest) = unescapeCheck mode rest := by
  induction p with
  | nil => rfl
  | cons c p ih =>
    rw [List.mem_cons, not_or] at hp
    rw [List.cons_append, unescapeCheck_cons_of_ne (Ne.symm hp.1)]
    simp [hhost, hzone, ih hp.2]

/-- Bytes with no `%` decode to themselves in a mode that does not decode `+`. -/
theorem unescapeDecode_plain_append {p : Bytes} (hp : 0x25 ∉ p) (hquery : mode ≠ .queryComponent)
    (rest : Bytes) : unescapeDecode mode (p ++ rest) = p ++ unescapeDecode mode rest := by
  induction p with
  | nil => rfl
  | cons c p ih =>
    rw [List.mem_cons, not_or] at hp
    rw [List.cons_append, unescapeDecode_cons_of_ne (Ne.symm hp.1)]
    simp [hquery, ih hp.2]

end Plain

theorem unescapeCheck_eq_none_of_ok {s t : Bytes} {mode : EncodeMode}
    (h : unescape s mode = .ok t) : unescapeCheck mode s = none := by
  unfold unescape at h
  split at h
  · cases h
  · assumption

/-- A host `parseHost` accepts and that holds no `%` passed the host check byte by byte. -/
theorem unescapeCheck_of_parseHost {host h' : Bytes} (h : parseHost host = .ok h')
    (hpct : 0x25 ∉ host) : unescapeCheck .host host = none := by
  unfold parseHost at h
  split at h
  · split at h
    · cases h
    · next inside colonPort hcut =>
      split at h
      · cases h
      · have hzone : splitAt (lit "%25") inside = none :=
          splitAt_eq_none_of_not_mem (x := 0x25) (by decide) fun hin => hpct (by
            rw [eq_of_cutLast_eq_some hcut]
            exact List.mem_append_left _ hin)
        rw [hzone] at h
        exact unescapeCheck_eq_none_of_ok h
  · split at h
    · split at h
      · cases h
      · exact unescapeCheck_eq_none_of_ok h
    · exact unescapeCheck_eq_none_of_ok h

/-- Every byte of a `%`-free host that passed the host check may stand in a host. -/
theorem hostByte_of_unescapeCheck {s : Bytes} (h : unescapeCheck .host s = none)
    (hpct : 0x25 ∉ s) : ∀ b ∈ s, HostByte b := by
  induction s with
  | nil => exact fun _ hb => absurd hb (List.not_mem_nil _)
  | cons c s ih =>
    rw [List.mem_cons, not_or] at hpct
    rw [unescapeCheck_cons_of_ne (Ne.symm hpct.1)] at h
    split at h
    · cases h
    · next hc =>
      intro b hb
      rcases List.mem_cons.mp hb with rfl | hb
      · exact hostByte_of_shouldEscape fun hlt => by simpa [hlt] using hc
      · exact ih h hpct.2 b hb

/-! ### Parse -/

/-- The authority ends where the path starts. -/
theorem cut_host_path {host path : Bytes} (hhost : 0x2F ∉ host)
    (hpath : path = [] ∨ [0x2F] <+: path) : (cut 0x2F (host ++ path)).1 = host := by
  rcases hpath with rfl | ⟨t, rfl⟩
  · rw [List.append_nil, cut_of_not_mem hhost]
  · rw [List.singleton_append, cut_append_cons hhost]

/-- An authority with no `@` is all host. -/
theorem parseAuthority_of_parseHost {host : Bytes} (hat : 0x40 ∉ host)
    (hhost : parseHost host = .ok host) : parseAuthority host = .ok (none, host) := by
  rw [parseAuthority, cutLast_of_not_mem hat]
  simp only [hhost]
  rfl

theorem setPath_of_unescape {p decoded : Bytes} (h : unescape p .path = .ok decoded) :
    setPath p = .ok (decoded, if escape decoded .path = p then [] else p) := by
  simp only [setPath, h]
  rfl

theorem asciiLower_ne_nil {s : Bytes} (h : s ≠ []) : asciiLower s ≠ [] := by
  simpa [asciiLower] using h

/-- `parse` without the fragment, on `scheme://host path` and a tail that the
query cut removes. -/
theorem parseNoFragment_authority {scheme host path tail q : Bytes} {fq : Bool} {p : Bytes × Bytes}
    (hscheme : SchemeName scheme)
    (hctl : stringContainsCTLByte (scheme ++ lit "://" ++ host ++ path ++ tail) = false)
    (hhost : parseHost host = .ok host) (hslash : 0x2F ∉ host) (hat : 0x40 ∉ host)
    (hpath : path = [] ∨ [0x2F] <+: path)
    (hquery : cutQuery (lit "//" ++ host ++ path ++ tail) = (lit "//" ++ host ++ path, fq, q))
    (hset : setPath path = .ok p) :
    parseNoFragment (scheme ++ lit "://" ++ host ++ path ++ tail) =
      .ok ⟨asciiLower scheme, [], none, host, p.1, p.2, false, fq, q, [], []⟩ := by
  have hne : scheme ≠ [] := by rintro rfl; exact hscheme
  have hstar : scheme ++ lit "://" ++ host ++ path ++ tail ≠ lit "*" := fun h => by
    have := congrArg List.length h
    simp [lit] at this
    omega
  have hsplit : scheme ++ lit "://" ++ host ++ path ++ tail =
      scheme ++ 0x3A :: (lit "//" ++ host ++ path ++ tail) := by
    simp only [List.append_assoc]
    rfl
  rw [parseNoFragment, if_neg (by rw [hctl]; decide), if_neg hstar, hsplit,
    getScheme_schemeName hscheme]
  have hslash2 : [0x2F] <+: lit "//" ++ host ++ path := ⟨lit "/" ++ host ++ path, rfl⟩
  have hdrop : (lit "//" ++ host ++ path).drop 2 = host ++ path := rfl
  dsimp only [bind, Except.bind]
  rw [hquery]
  dsimp only [pure, Except.pure]
  rw [if_neg (fun h => h.1 hslash2), if_neg (fun h => h.1 hslash2),
    if_pos ⟨.inl (asciiLower_ne_nil hne), host ++ path, (List.append_assoc _ _ _).symm⟩, hdrop,
    cut_host_path hslash hpath, parseAuthority_of_parseHost hat hhost]
  dsimp only
  rw [List.drop_left, hset]

/-- Without a `#`, `url.Parse` is `parse` of the whole text. -/
theorem parse_of_not_mem_hash {s : Bytes} {u : URL} (h : 0x23 ∉ s)
    (hp : parseNoFragment s = .ok u) : parse s = .ok u := by
  rw [parse, cut_of_not_mem h]
  dsimp only
  rw [hp]
  rfl

/-- `url.Parse` of `scheme://host path`, with `?query` when the query is not
empty: the scheme lower-cased, the host as written, the path decoded (and kept raw
when its default encoding differs), and the raw query. -/
theorem parse_authority_path {scheme host path q decoded : Bytes} (hscheme : SchemeName scheme)
    (hhost : parseHost host = .ok host) (hpct : 0x25 ∉ host) (hpath : path = [] ∨ [0x2F] <+: path)
    (hpathBytes : ∀ b ∈ path, OrdinaryByte b) (hq : ∀ b ∈ q, OrdinaryByte b)
    (hdecode : unescape path .path = .ok decoded) :
    parse (scheme ++ lit "://" ++ host ++ path ++ (if q = [] then [] else 0x3F :: q)) =
      .ok ⟨asciiLower scheme, [], none, host, decoded,
        if escape decoded .path = path then [] else path, false, false, q, [], []⟩ := by
  have hhostBytes := hostByte_of_unescapeCheck (unescapeCheck_of_parseHost hhost hpct) hpct
  have hr : 0x3F ∉ lit "//" ++ host ++ path := by
    simp only [List.mem_append, not_or]
    exact ⟨⟨by decide, fun h => (hhostBytes _ h).1.2.2.1 rfl⟩, fun h => (hpathBytes _ h).2.2.1 rfl⟩
  have hquery : cutQuery (lit "//" ++ host ++ path ++ (if q = [] then [] else 0x3F :: q)) =
      (lit "//" ++ host ++ path, false, q) := by
    split
    · next hq0 => rw [List.append_nil, cutQuery_of_not_mem hr, hq0]
    · next hne => exact cutQuery_append_cons hr (fun h => (hq _ h).2.2.1 rfl) hne
  have hbytes : ∀ b ∈ scheme ++ lit "://" ++ host ++ path ++ (if q = [] then [] else 0x3F :: q),
      0x20 ≤ b.toNat ∧ b.toNat ≠ 0x7F ∧ b.toNat ≠ 0x23 := by
    have weaken : ∀ {b : UInt8}, OrdinaryByte b → 0x20 ≤ b.toNat ∧ b.toNat ≠ 0x7F ∧ b.toNat ≠ 0x23 :=
      fun h => ⟨h.1, h.2.1, h.2.2.2⟩
    simp only [List.forall_mem_append]
    refine ⟨⟨⟨⟨fun b hb => weaken (ordinaryByte_of_mem_schemeName hscheme b hb), by decide⟩,
      fun b hb => weaken (hhostBytes b hb).1⟩, fun b hb => weaken (hpathBytes b hb)⟩, ?_⟩
    split
    · exact fun _ h => absurd h (List.not_mem_nil _)
    · exact List.forall_mem_cons.mpr ⟨by decide, fun b hb => weaken (hq b hb)⟩
  exact parse_of_not_mem_hash (fun h => (hbytes _ h).2.2 rfl)
    (parseNoFragment_authority hscheme
      (stringContainsCTLByte_eq_false fun b hb => ⟨(hbytes b hb).1, (hbytes b hb).2.1⟩) hhost
      (fun h => (hhostBytes _ h).2.1 rfl) (fun h => (hhostBytes _ h).2.2 rfl) hpath hquery
      (setPath_of_unescape hdecode))

end Url

end ProviderOrchard
