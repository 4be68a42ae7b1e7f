import Mathlib.Data.List.TakeDrop
import Mathlib.Data.List.TakeWhile
import Switchboard.Backend.Basic
import Switchboard.Proofs.Lists
import Switchboard.Proofs.Percent

/-!
# Paths joined to addresses

A relative text of characters that stand for themselves in a path is read as a path and nothing else
(`join_path`): no scheme, no host, no query. As long as no segment is a dot segment, the base is kept
up to its last slash and the text follows it as it is (`join_of_plain`).

The base of a backend ends with a slash (`base_of_connect`), so nothing of it is lost.
-/

namespace Switchboard

theorem exists_of_bind_eq_ok {ε α β : Type} {x : Except ε α} {f : α → Except ε β} {b : β}
    (h : (x >>= f) = .ok b) : ∃ a, x = .ok a ∧ f a = .ok b := by
  cases x with
  | error _ => cases h
  | ok a => exact ⟨a, rfl, h⟩

namespace Url

/-! ## Characters that stand for themselves -/

/-- Whether a character of a relative text stands for itself in a path: it ends neither a scheme nor
the path, is no slash of the other kind, and no code for another character starts with it. -/
def isPathChar (c : Char) : Bool := Percent.inPath c && !(c = ':' || c = '\\' || c = '%')

theorem inPath_of_isPathChar {c : Char} (h : isPathChar c = true) : Percent.inPath c = true :=
  (Bool.and_eq_true_iff.mp h).1

theorem ne_of_isPathChar {c d : Char} (h : isPathChar c = true) (hd : isPathChar d = false) :
    c ≠ d := fun heq => by
  rw [heq, hd] at h
  cases h

/-- Nothing is cleaned off a text whose characters all count. -/
theorem cleaned_eq_self {cs : List Char} (h : ∀ c ∈ cs, 0x20 < c.toNat) : cleaned cs = cs := by
  have hedge : ∀ ds : List Char, (∀ c ∈ ds, 0x20 < c.toNat) → ds.dropWhile isEdge = ds :=
    fun ds hds => List.dropWhile_eq_self_iff.mpr fun hpos => by
      simpa [isEdge] using hds _ (List.getElem_mem hpos)
  have hback : cs.reverse.dropWhile isEdge = cs.reverse :=
    hedge _ fun c hc => h c (List.mem_reverse.mp hc)
  rw [cleaned, hedge cs h, hback, List.reverse_reverse, List.filter_eq_self]
  intro c hc
  have hlow := h c hc
  have hne : ∀ d : Char, d.toNat ≤ 0x20 → c ≠ d := fun d hd heq => by subst heq; omega
  simp [hne '\t' (by decide), hne '\n' (by decide), hne '\r' (by decide)]

theorem splitScheme?_eq_none {cs : List Char} (h : ':' ∉ cs) : splitScheme? cs = none := by
  unfold splitScheme?
  split
  · next c more rest hspan =>
    rw [List.span_eq_takeWhile_dropWhile] at hspan
    have hrest : cs.dropWhile isSchemeChar = ':' :: rest := congrArg Prod.snd hspan
    exact absurd (List.dropWhile_subset _ (hrest ▸ List.mem_cons_self)) h
  · rfl

theorem toNat_of_isPathChar {c : Char} (h : isPathChar c = true) : 0x20 < c.toNat := by
  have hplain : Percent.plain c = true :=
    (Bool.and_eq_true_iff.mp (Bool.and_eq_true_iff.mp (inPath_of_isPathChar h)).1).1
  have hlow : ' '.toNat ≤ c.toNat := of_decide_eq_true (Bool.and_eq_true_iff.mp hplain).1
  have hspace : c ≠ ' ' := ne_of_isPathChar h (by decide)
  exact Nat.lt_of_le_of_ne hlow fun heq => hspace (Char.toNat_inj.mp heq.symm)

/-! ## Paths -/

theorem readPath_eq {cs : List Char} (h : ∀ c ∈ cs, isPathChar c = true) (kind : SchemeKind)
    (start : List String) : readPath kind start cs = (follow kind start (cs.splitOn '/'), []) := by
  have hgoes : ∀ c ∈ cs, (!endsPath c) = true := fun c hc => by
    have hquery : c ≠ '?' := ne_of_isPathChar (h c hc) (by decide)
    have hfragment : c ≠ '#' := ne_of_isPathChar (h c hc) (by decide)
    simp [endsPath, hquery, hfragment]
  have hcut : cutSegments kind cs = cs.splitOn '/' := splitOnP_congr fun c hc => by
    have hother : c ≠ '\\' := ne_of_isPathChar (h c hc) (by decide)
    simp [isSlash, hother, beq_eq_decide]
  simp only [readPath, List.span_eq_takeWhile_dropWhile, List.takeWhile_eq_self_iff.mpr hgoes,
    List.dropWhile_eq_nil_iff.mpr hgoes, hcut]

/-- A text of path characters changes the path and nothing in front of it. -/
theorem join_path {text : String} (hchars : ∀ c ∈ text.toList, isPathChar c = true)
    (hne : text ≠ "") (hhead : text.toList.head? ≠ some '/') (base : Url) :
    base.join text = .ok
      { base with
        path := .segments (follow (SchemeKind.of base.scheme) base.segments.dropLast
          (text.toList.splitOn '/'))
        query := none
        fragment := none } := by
  have hcleaned : cleaned text.toList = text.toList := cleaned_eq_self fun c hc =>
    toNat_of_isPathChar (hchars c hc)
  have hscheme : splitScheme? text.toList = none := splitScheme?_eq_none fun hcolon =>
    ne_of_isPathChar (hchars _ hcolon) (by decide) rfl
  simp only [join, hcleaned, hscheme]
  cases hcs : text.toList with
  | nil => exact absurd (String.toList_eq_nil_iff.mp hcs) hne
  | cons c rest =>
    rw [hcs] at hchars hhead
    have hne {d : Char} (hd : isPathChar d = false) : c ≠ d :=
      ne_of_isPathChar (hchars c List.mem_cons_self) hd
    have hslash : isSlash (SchemeKind.of base.scheme) c = false := by
      have hfirst : c ≠ '/' := fun heq => hhead (congrArg some heq)
      have hother : c ≠ '\\' := hne (by decide)
      simp [isSlash, hfirst, hother]
    unfold readRelative
    split
    · next heq => cases heq
    · next heq => cases heq; exact absurd rfl (hne (by decide))
    · next heq => cases heq; exact absurd rfl (hne (by decide))
    · next heq => cases heq; exact absurd rfl hhead
    · next heq =>
      cases heq
      simp only [hslash, readPath_eq hchars]
      rfl

/-! ## Plain segments -/

/-- A segment that is put into an address as it is: no dot segment, and nothing to encode. -/
structure IsPlain (cs : List Char) : Prop where
  chars : ∀ c ∈ cs, isPathChar c = true
  ne_dot : cs ≠ ['.']
  ne_dots : cs ≠ ['.', '.']

theorem IsPlain.not_singleDot {cs : List Char} (h : IsPlain cs) : isSingleDot cs = false := by
  unfold isSingleDot
  split
  · exact absurd rfl h.ne_dot
  · exact absurd (h.chars '%' List.mem_cons_self) (by decide)
  · rfl

theorem IsPlain.not_doubleDot {cs : List Char} (h : IsPlain cs) : isDoubleDot cs = false := by
  unfold isDoubleDot
  split
  · next rest =>
    unfold isSingleDot
    split
    · exact absurd rfl h.ne_dots
    · exact absurd (h.chars '%' (List.mem_cons_of_mem _ List.mem_cons_self)) (by decide)
    · rfl
  · exact absurd (h.chars '%' List.mem_cons_self) (by decide)
  · rfl

theorem IsPlain.segmentText_eq {cs : List Char} (h : IsPlain cs) (parts : List String)
    {kind : SchemeKind} (hkind : kind ≠ .file) : segmentText kind parts cs = String.ofList cs := by
  have hencode : Percent.encode Percent.inPath cs = cs := Percent.encode_eq_self fun c hc =>
    inPath_of_isPathChar (h.chars c hc)
  unfold segmentText
  split
  · exact absurd rfl hkind
  · rw [hencode]

/-- Plain segments are put at the end one after the other. -/
theorem follow_eq {segments : List (List Char)} (h : ∀ cs ∈ segments, IsPlain cs)
    {kind : SchemeKind} (hkind : kind ≠ .file) (parts : List String) :
    follow kind parts segments = parts ++ segments.map String.ofList := by
  fun_induction follow kind parts segments with
  | case1 parts => exact (List.append_nil parts).symm
  | case2 parts last hdots => rw [(h last List.mem_cons_self).not_doubleDot] at hdots; cases hdots
  | case3 parts last _ hdot => rw [(h last List.mem_cons_self).not_singleDot] at hdot; cases hdot
  | case4 parts last => rw [(h last List.mem_cons_self).segmentText_eq parts hkind]; rfl
  | case5 parts cs rest _ hdots =>
    rw [(h cs List.mem_cons_self).not_doubleDot] at hdots; cases hdots
  | case6 parts cs rest _ _ hdot =>
    rw [(h cs List.mem_cons_self).not_singleDot] at hdot; cases hdot
  | case7 parts cs rest _ _ _ ih =>
    rw [ih fun ds hds => h ds (List.mem_cons_of_mem _ hds),
      (h cs List.mem_cons_self).segmentText_eq parts hkind, List.append_assoc]
    rfl

/-! ## The text of a path -/

theorem pathText_cons (part : String) (parts : List String) :
    pathText (.segments (part :: parts)) = "/" ++ part ++ pathText (.segments parts) := by
  rw [pathText, List.map_cons, String.join_cons]
  rfl

theorem pathText_append (parts more : List String) :
    pathText (.segments (parts ++ more)) =
      pathText (.segments parts) ++ pathText (.segments more) := by
  simp [pathText, String.join_append]

/-- The segments of a text with a slash in front of each give the text with a slash in front. -/
theorem pathText_splitOn (cs : List Char) :
    pathText (.segments ((cs.splitOn '/').map String.ofList)) = "/" ++ String.ofList cs := by
  induction cs with
  | nil => rfl
  | cons c rest ih =>
    rw [List.splitOn] at ih ⊢
    rw [List.splitOnP_cons_eq_if_modifyHead]
    split
    · next hc =>
      obtain rfl := eq_of_beq hc
      rw [List.map_cons, pathText_cons, ih]
      simp
    · obtain ⟨first, more, hsplit⟩ :=
        List.exists_cons_of_ne_nil (List.splitOnP_ne_nil (· == '/') rest)
      rw [hsplit, List.map_cons, pathText_cons] at ih
      rw [hsplit, List.modifyHead_cons, List.map_cons, pathText_cons]
      simp_all [← String.toList_inj]

/-- A character of a text is a slash or in one of the segments. -/
theorem mem_splitOn {cs : List Char} {c : Char} (h : c ∈ cs) :
    c = '/' ∨ ∃ segment ∈ cs.splitOn '/', c ∈ segment := by
  have hmem : c ∈ (pathText (.segments ((cs.splitOn '/').map String.ofList))).toList := by
    rw [pathText_splitOn]
    simp [h]
  simp only [pathText, String.toList_join, List.map_map, List.mem_flatMap, List.mem_map] at hmem
  obtain ⟨_, ⟨segment, hsegment, rfl⟩, hc⟩ := hmem
  simp only [Function.comp_apply, String.toList_append, String.toList_ofList, List.mem_append] at hc
  rcases hc with hslash | hc
  · exact .inl (List.mem_singleton.mp hslash)
  · exact .inr ⟨segment, hsegment, hc⟩

/-! ## Joining -/

/-- A text of plain segments follows the base, whose last segment it takes the place of. Without a
segment there is nothing to take its place. -/
theorem join_of_plain {base : Url} {parts : List String}
    (hbase : base.path = .segments (parts ++ [""])) (hkind : SchemeKind.of base.scheme ≠ .file)
    {text : String} (hplain : ∀ cs ∈ text.toList.splitOn '/', IsPlain cs)
    (hhead : text.toList.head? ≠ some '/') :
    ∃ u, base.join text = .ok u ∧ u.scheme = base.scheme ∧ u.authority = base.authority ∧
      u.fragment = none ∧ pathText u.path = pathText base.path ++ text := by
  have hends : pathText base.path = pathText (.segments parts) ++ "/" := by
    rw [hbase, pathText_append]
    rfl
  by_cases hne : text = ""
  · subst hne
    exact ⟨{ base with fragment := none }, rfl, rfl, rfl, rfl, String.append_empty.symm⟩
  · have hchars : ∀ c ∈ text.toList, isPathChar c = true := fun c hc => by
      rcases mem_splitOn hc with rfl | ⟨segment, hsegment, hc⟩
      · decide
      · exact (hplain segment hsegment).chars c hc
    refine ⟨_, join_path hchars hne hhead base, rfl, rfl, rfl, ?_⟩
    have hsegments : base.segments.dropLast = parts := by
      rw [segments, hbase, List.dropLast_concat]
    simp only [hsegments, follow_eq hplain hkind, hends, pathText_append, pathText_splitOn,
      String.ofList_toList, String.append_assoc]

/-! ## Where a path ends -/

theorem not_mem_segmentText (kind : SchemeKind) (parts : List String) (cs : List Char) :
    '?' ∉ (segmentText kind parts cs).toList := by
  have hencode : '?' ∉ Percent.encode Percent.inPath cs :=
    Percent.not_mem_encode (by decide) (by decide) cs
  unfold segmentText
  split
  · next letter mark =>
    split
    · next hdrive =>
      have hletter : letter.isAlpha = true := (Bool.and_eq_true_iff.mp hdrive).1
      rw [String.toList_ofList]
      intro hmem
      rcases List.mem_cons.mp hmem with rfl | hmem
      · exact absurd hletter (by decide)
      · exact absurd (List.mem_singleton.mp hmem) (by decide)
    · rwa [String.toList_ofList]
  · rwa [String.toList_ofList]

theorem mem_of_mem_parent {parts : List String} {part : String} (h : part ∈ parent parts) :
    part ∈ parts := by
  unfold parent at h
  split at h
  · split at h
    · exact h
    · exact List.dropLast_subset _ h
  · cases h

/-- No segment holds a question mark: that is where a path ends. -/
theorem not_mem_follow {kind : SchemeKind} {start : List String}
    (hstart : ∀ part ∈ start, '?' ∉ part.toList) (segments : List (List Char)) :
    ∀ part ∈ follow kind start segments, '?' ∉ part.toList := by
  have hparent {parts : List String} (h : ∀ part ∈ parts, '?' ∉ part.toList) :
      ∀ part ∈ parent parts, '?' ∉ part.toList := fun part hpart => h part (mem_of_mem_parent hpart)
  have hconcat {parts : List String} {last : String} (h : ∀ part ∈ parts, '?' ∉ part.toList)
      (hlast : '?' ∉ last.toList) : ∀ part ∈ parts ++ [last], '?' ∉ part.toList :=
    List.forall_mem_append.mpr ⟨h, List.forall_mem_singleton.mpr hlast⟩
  have hempty : '?' ∉ ("" : String).toList := List.not_mem_nil
  fun_induction follow kind start segments with
  | case1 parts => exact hstart
  | case2 parts last => exact hconcat (hparent hstart) hempty
  | case3 parts last => exact hconcat hstart hempty
  | case4 parts last => exact hconcat hstart (not_mem_segmentText _ _ _)
  | case5 parts cs rest _ _ ih => exact ih (hparent hstart)
  | case6 parts cs rest _ _ _ ih => exact ih hstart
  | case7 parts cs rest _ _ _ ih => exact ih (hconcat hstart (not_mem_segmentText _ _ _))

theorem not_mem_readFullPath (kind : SchemeKind) (cs : List Char) :
    ∀ part ∈ (readFullPath kind cs).1, '?' ∉ part.toList := by
  have hread (cs : List Char) : ∀ part ∈ (readPath kind [] cs).1, '?' ∉ part.toList :=
    not_mem_follow (List.forall_mem_nil _) _
  unfold readFullPath
  split
  · split
    · exact List.forall_mem_singleton.mpr List.not_mem_nil
    · exact List.forall_mem_nil _
  · split
    · exact hread _
    · split
      · exact List.forall_mem_nil _
      · exact hread _

/-! ## Addresses of backends -/

theorem exists_segments_of_readFile {cs : List Char} {u : Url} (h : readFile cs = .ok u) :
    ∃ parts, u.path = .segments parts ∧ ∀ part ∈ parts, '?' ∉ part.toList := by
  have hlocal (host : Host) (cs : List Char) : ∃ parts,
      (readLocalFile host cs).path = .segments parts ∧ ∀ part ∈ parts, '?' ∉ part.toList := by
    have hread : ∀ part ∈ (readPath .file [] (cs.dropWhile (isSlash .file))).1,
        '?' ∉ part.toList := not_mem_follow (List.forall_mem_nil _) _
    refine ⟨_, rfl, ?_⟩
    split
    · exact List.forall_mem_singleton.mpr List.not_mem_nil
    · exact fun part hpart => hread part (List.dropWhile_subset _ hpart)
  unfold readFile at h
  split at h
  · split at h
    · dsimp only at h
      split at h
      · cases h
        exact hlocal _ _
      · obtain ⟨host, -, h⟩ := exists_of_bind_eq_ok h
        cases h
        exact hlocal _ _
    · cases h
      exact hlocal _ _
  · cases h
    exact hlocal _ _

theorem exists_segments_of_readFromAuthority {scheme : String} {cs : List Char} {u : Url}
    (h : readFromAuthority scheme cs = .ok u) :
    ∃ parts, u.path = .segments parts ∧ ∀ part ∈ parts, '?' ∉ part.toList := by
  obtain ⟨⟨authority, rest⟩, -, h⟩ := exists_of_bind_eq_ok h
  cases h
  exact ⟨_, rfl, not_mem_readFullPath _ _⟩

/-- An address read for its scheme has that scheme. -/
theorem scheme_of_readOther {scheme : String} {cs : List Char} {u : Url}
    (h : readOther scheme cs = .ok u) : u.scheme = scheme := by
  unfold readOther at h
  split at h
  · obtain ⟨⟨authority, rest⟩, -, h⟩ := exists_of_bind_eq_ok h
    cases h
    rfl
  · cases h
    rfl
  · cases h
    rfl

/-- The address of a scheme with a fixed form has segments. -/
theorem exists_segments_of_parse {text : String} {u : Url} (h : parse text = .ok u)
    (hkind : SchemeKind.of u.scheme ≠ .other) :
    ∃ parts, u.path = .segments parts ∧ ∀ part ∈ parts, '?' ∉ part.toList := by
  unfold parse at h
  dsimp only at h
  split at h
  · next scheme rest _ =>
    unfold readWithScheme at h
    split at h
    · exact exists_segments_of_readFile h
    · exact exists_segments_of_readFromAuthority h
    · -- only here a path without segments is read, and the scheme is the one that was found
      next hother => exact absurd (scheme_of_readOther h ▸ hother) hkind
  · cases h

theorem asDirectory_scheme (u : Url) : u.asDirectory.scheme = u.scheme := by
  unfold asDirectory
  split
  · split <;> rfl
  · rfl

theorem asDirectory_path {u : Url} {parts : List String} (h : u.path = .segments parts)
    (hmark : ∀ part ∈ parts, '?' ∉ part.toList) :
    ∃ parts, u.asDirectory.path = .segments (parts ++ [""]) ∧
      ∀ part ∈ parts, '?' ∉ part.toList := by
  unfold asDirectory
  simp only [h]
  split
  · next hlast =>
    obtain ⟨front, rfl⟩ := List.getLast?_eq_some_iff.mp hlast
    exact ⟨front, h, fun part hpart => hmark part (List.mem_append_left _ hpart)⟩
  · exact ⟨parts, rfl, hmark⟩

end Url

namespace Backend

/-- The base of a backend belongs to a scheme with a host, and its path ends with a slash. -/
theorem base_of_readBase {raw : String} {base : Url} (h : readBase raw = .ok base) :
    Url.SchemeKind.of base.scheme ≠ .file ∧ ∃ parts, base.path = .segments (parts ++ [""]) ∧
      ∀ part ∈ parts, '?' ∉ part.toList := by
  unfold readBase at h
  split at h
  · cases h
  · next u hparse =>
    split at h
    · next hscheme =>
      cases h
      have hkind : Url.SchemeKind.of u.scheme ≠ .file ∧ Url.SchemeKind.of u.scheme ≠ .other := by
        rcases Bool.or_eq_true_iff.mp hscheme with hhttp | hhttps
        · rw [of_decide_eq_true hhttp]; decide
        · rw [of_decide_eq_true hhttps]; decide
      obtain ⟨parts, hparts, hmark⟩ := Url.exists_segments_of_parse hparse hkind.2
      rw [Url.asDirectory_scheme]
      exact ⟨hkind.1, Url.asDirectory_path hparts hmark⟩
    · cases h

theorem base_of_connect {service : String} {settings : Option BackendConfig} {b : Backend}
    (h : connect service settings = .ok b) :
    Url.SchemeKind.of b.base.scheme ≠ .file ∧ ∃ parts, b.base.path = .segments (parts ++ [""]) ∧
      ∀ part ∈ parts, '?' ∉ part.toList := by
  unfold connect at h
  split at h
  · split at h
    · obtain ⟨base, hbase, h⟩ := exists_of_bind_eq_ok h
      obtain ⟨headers, -, h⟩ := exists_of_bind_eq_ok h
      cases h
      exact base_of_readBase hbase
    · cases h
  · cases h

/-- The address of a path is what follows its slash, joined to the base. -/
theorem url_eq_ok {b : Backend} {rest : String} {u : Url} (hhead : rest.toList.head? ≠ some '/')
    (hjoin : b.base.join rest = .ok u) : b.url ("/" ++ rest) = .ok u := by
  have hrest : ("/" ++ rest).toList.dropWhile (· = '/') = rest.toList := by
    have hslash : ("/" : String).toList = ['/'] := rfl
    rw [String.toList_append, hslash, List.singleton_append, List.dropWhile_cons_of_pos rfl]
    cases hcs : rest.toList with
    | nil => rfl
    | cons c more =>
      refine List.dropWhile_cons_of_neg fun hc => hhead ?_
      rw [hcs, of_decide_eq_true hc]
      rfl
  rw [url, hrest, String.ofList_toList, hjoin]

end Backend

end Switchboard
