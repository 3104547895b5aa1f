import MarkerScan.Proofs.Http.Exchange
import MarkerScan.Proofs.Text.Lines
/-
  MarkerScan.Proofs.Http.Url — URLs that something can be sent to, whatever their path.

  What is taken away from the text of a URL before it is read is at its ends, or a tab or a
  line end; so the text up to the slash behind the host stays (`clean_append`), and the
  scheme and the host are read from it alone (`exists_parse?_https`).
-/

namespace MarkerScan.Http.Url

open Text

/-- A character that stands in a host as it is: nothing ends there, it is never taken away, and a request can hold it. -/
def isHostChar (c : Char) : Bool :=
  decide (32 < c.toNat) && !(['/', '\\', '?', '#', '@', ':', '[', '"', '`', '\x7b', '\x7d'].contains c)

theorem ne_of_isHostChar {c d : Char} (hc : isHostChar c = true) (hd : isHostChar d = false) : c ≠ d := by
  rintro rfl
  cases hc.symm.trans hd

theorem solid_of_isHostChar {c : Char} (hc : isHostChar c = true) : 32 < c.toNat :=
  of_decide_eq_true (Bool.and_eq_true_iff.mp hc).1

theorem dropWhile_append_of_head {p : Char → Bool} {c : Char} (hc : p c = false) (s t : List Char) :
    ∃ s', (s ++ c :: t).dropWhile p = s' ++ c :: t := by
  induction s with
  | nil => exact ⟨[], List.dropWhile_cons_of_neg (by simp [hc])⟩
  | cons d s ih =>
    cases hd : p d with
    | true => rw [List.cons_append, List.dropWhile_cons_of_pos hd]; exact ih
    | false => exact ⟨d :: s, List.dropWhile_cons_of_neg (by simp [hd])⟩

/-- A beginning without controls and spaces stays, whatever follows it. -/
theorem clean_append {front : List Char} (hfront : front ≠ []) (h : ∀ c ∈ front, 32 < c.toNat) (rest : List Char) :
    ∃ rest', clean (front ++ rest) = front ++ rest' := by
  have edge : ∀ c ∈ front, decide (c.toNat ≤ 32) = false := fun c hc => by simpa using h c hc
  have kept : front.filter (fun c => c != '\t' && c != '\n' && c != '\r') = front := by
    refine List.filter_eq_self.mpr fun c hc => ?_
    have := h c hc
    simp only [Bool.and_eq_true, bne_iff_ne]
    refine ⟨⟨?_, ?_⟩, ?_⟩ <;> rintro rfl <;> revert this <;> decide
  obtain ⟨init, last, rfl⟩ : ∃ init last, front = init ++ [last] :=
    ⟨front.dropLast, front.getLast hfront, (List.dropLast_append_getLast hfront).symm⟩
  have start : ((init ++ [last]) ++ rest).dropWhile (fun c => decide (c.toNat ≤ 32)) = (init ++ [last]) ++ rest := by
    cases init with
    | nil => exact List.dropWhile_cons_of_neg (by simp [edge last])
    | cons c init => exact List.dropWhile_cons_of_neg (by simp [edge c])
  have reversed : ((init ++ [last]) ++ rest).reverse = rest.reverse ++ last :: init.reverse := by simp
  obtain ⟨end', hend⟩ := dropWhile_append_of_head (p := fun c => decide (c.toNat ≤ 32)) (edge last (by simp))
    rest.reverse init.reverse
  refine ⟨end'.reverse.filter fun c => c != '\t' && c != '\n' && c != '\r', ?_⟩
  unfold clean
  simp only [start, reversed, hend]
  rw [List.reverse_append, List.reverse_cons, List.reverse_reverse, List.filter_append, kept]

theorem splitHost_of_no_colon {host : List Char} (h : ∀ c ∈ host, c ≠ ':' ∧ c ≠ '[') :
    splitHost false host = (host, []) := by
  induction host with
  | nil => rfl
  | cons c host ih =>
    obtain ⟨⟨hcolon, hbracket⟩, hrest⟩ := List.forall_mem_cons.mp h
    have bracket : (c == '[') = false := beq_false_of_ne hbracket
    rw [splitHost]
    simp [hcolon, bracket, ih hrest]

variable [HostNames] {name host : List Char}

theorem ofAuthority?_https (hname : name ≠ []) (hchars : ∀ c ∈ name, isHostChar c = true)
    (hhost : host? true name = some host) (rest : List Char) :
    ∃ u, ofAuthority? "https".toList (name ++ '/' :: rest) = some u ∧ u.scheme = "https".toList ∧ u.host = some host := by
  have special : isSpecial "https".toList = true := by decide +kernel
  have inside : ∀ c ∈ name, (!(isSlash true c || isPathEnd c)) = true := by
    intro c hc
    have slash : c ≠ '/' := ne_of_isHostChar (hchars c hc) (by decide)
    have back : c ≠ '\\' := ne_of_isHostChar (hchars c hc) (by decide)
    have query : c ≠ '?' := ne_of_isHostChar (hchars c hc) (by decide)
    have fragment : c ≠ '#' := ne_of_isHostChar (hchars c hc) (by decide)
    simp [isSlash, isPathEnd, slash, back, query, fragment]
  have taken : (name ++ '/' :: rest).takeWhile (fun c => !(isSlash true c || isPathEnd c)) = name := by
    rw [List.takeWhile_append_of_pos inside, List.takeWhile_cons_of_neg (by decide), List.append_nil]
  have noAt : '@' ∉ name := fun hc => ne_of_isHostChar (hchars _ hc) (by decide) rfl
  have noColon : ∀ c ∈ name, c ≠ ':' ∧ c ≠ '[' := fun c hc =>
    ⟨ne_of_isHostChar (hchars c hc) (by decide), ne_of_isHostChar (hchars c hc) (by decide)⟩
  have nonempty : name.isEmpty = false := by simpa using hname
  unfold ofAuthority?
  simp only [special, taken, split_of_no_sep noAt, List.getLastD_cons, List.getLastD_nil,
    splitHost_of_no_colon noColon, nonempty, hhost, portNumber?]
  exact ⟨_, rfl, rfl, rfl⟩

/-- The text up to the slash behind the host decides where a URL leads. -/
theorem exists_parse?_https (hname : name ≠ []) (hchars : ∀ c ∈ name, isHostChar c = true)
    (hhost : host? true name = some host) (rest : List Char) :
    ∃ u, parse? ("https://".toList ++ name ++ '/' :: rest) = some u ∧ u.scheme = "https".toList ∧ u.host = some host := by
  have front : ∀ c ∈ "https://".toList ++ name ++ ['/'], 32 < c.toNat := by
    have scheme : "https://".toList.all (fun c => decide (32 < c.toNat)) = true := by decide +kernel
    simp only [List.forall_mem_append, List.forall_mem_singleton]
    exact ⟨⟨fun c hc => of_decide_eq_true (List.all_eq_true.mp scheme c hc),
      fun c hc => solid_of_isHostChar (hchars c hc)⟩, by decide⟩
  obtain ⟨rest', hclean⟩ := clean_append (by simp) front rest
  have text : "https://".toList ++ name ++ '/' :: rest = ("https://".toList ++ name ++ ['/']) ++ rest := by simp
  have scheme : scheme? ("https://".toList ++ name ++ ['/'] ++ rest') =
      some ("https".toList, '/' :: '/' :: (name ++ '/' :: rest')) := by
    simp [scheme?, isSchemeChar]
  obtain ⟨c, tail, rfl⟩ := List.exists_cons_of_ne_nil hname
  have slash : c ≠ '/' := ne_of_isHostChar (hchars c (by simp)) (by decide)
  have back : c ≠ '\\' := ne_of_isHostChar (hchars c (by simp)) (by decide)
  have slashes : ('/' :: '/' :: (c :: tail ++ '/' :: rest')).dropWhile (isSlash true) = c :: tail ++ '/' :: rest' := by
    simp [isSlash, slash, back]
  have file : isFile "https".toList = false := by decide +kernel
  have special : isSpecial "https".toList = true := by decide +kernel
  unfold parse?
  rw [text, hclean, scheme]
  simp only [Option.bind_eq_bind, Option.bind_some, file, special, slashes]
  exact ofAuthority?_https hname hchars hhost rest'

/-- So whatever follows the host of a service, something can be sent there. -/
theorem exists_sendable_https (hname : name ≠ []) (hchars : name.all isHostChar = true)
    (hhost : host? true name = some name) (rest : List Char) :
    ∃ u, parse? ("https://".toList ++ name ++ '/' :: rest) = some u ∧ u.Sendable := by
  have hchars := List.all_eq_true.mp hchars
  obtain ⟨u, hu, hscheme, hhost⟩ := exists_parse?_https hname hchars hhost rest
  refine ⟨u, hu, .inr hscheme, name, hhost, hname, fun c hc hmem => ?_⟩
  simp only [List.mem_cons, List.not_mem_nil, or_false] at hmem
  rcases hmem with h | h | h | h <;> exact ne_of_isHostChar (hchars c hc) (by decide) h

end MarkerScan.Http.Url
