import TokenAudit.Url.Reading

/-! # Where an address leads

An address is read from left to right, and when the slash behind its host has been read it is
settled where it leads. What follows makes up the path, the question and the mark inside, and
nothing else. So two addresses that differ only in a key behind `/v2/` are both unreadable for the
same reason, or lead to the same place. Only a path to a file can take its host away, and so a file
counts as leading nowhere.

* `Url.site` — where an address leads; `Url.site_withPath`, `Url.site_withQuery` and others say what
  does not matter for it;
* `Url.readSocket_slash`, `Url.site_readPlace` — a place is read up to a slash;
* `Url.tidy_marked`, `Url.scheme?_marked` — what comes before is read up to the mark of a key.

Main statement: `Url.site_parse`. -/

namespace TokenAudit

section Slices

variable {α : Type} (p : α → Bool) {c : α}

/-- What is taken from the front of a list does not go beyond an element that is not taken. -/
theorem takeWhile_append_stop (hc : p c = false) (before after : List α) :
    (before ++ c :: after).takeWhile p = before.takeWhile p := by
  induction before with
  | nil => simp [hc]
  | cons b before ih => rw [List.cons_append, List.takeWhile_cons, List.takeWhile_cons, ih]

/-- What is dropped from the front of a list does not go beyond an element that is not dropped. -/
theorem dropWhile_append_stop (hc : p c = false) (before after : List α) :
    (before ++ c :: after).dropWhile p = before.dropWhile p ++ c :: after := by
  induction before with
  | nil => simp [hc]
  | cons b before ih =>
    rw [List.cons_append, List.dropWhile_cons, List.dropWhile_cons, ih]
    split <;> rfl

end Slices

namespace Url

/-- Where an address leads: all of it but the path, the question and the mark. A file leads
nowhere. -/
def site (url : Url) : Url :=
  if url.scheme = fileScheme then { scheme := fileScheme, path := "" }
  else { url with path := "", query := none, fragment := none }

/-- Where an address leads, it leads by its scheme. -/
theorem scheme_site (url : Url) : url.site.scheme = url.scheme := by
  unfold site
  split
  · exact Eq.symm ‹_›
  · rfl

/-- Where an address leads, it leads to its host, if it is not that of a file. -/
theorem host_site {url : Url} (h : url.scheme ≠ fileScheme) : url.site.host = url.host := by
  rw [site, if_neg h]

/-- All files lead to one place. -/
theorem site_of_file {url : Url} (h : url.scheme = fileScheme) :
    url.site = { scheme := fileScheme, path := "" } :=
  if_pos h

/-! ## Path, question and mark -/

/-- A mark inside does not matter for where an address leads. -/
theorem site_withFragment (url : Url) (cs : List Char) : (withFragment url cs).site = url.site := by
  unfold withFragment
  split <;> rfl

/-- Nor does a question. -/
theorem site_withQuery (url : Url) (cs : List Char) : (withQuery url cs).site = url.site := by
  unfold withQuery
  split
  · exact site_withFragment _ _
  · exact site_withFragment _ _

/-- Nor does a path. -/
theorem site_withPath (url : Url) (cs : List Char) : (withPath url cs).site = url.site :=
  site_withQuery _ _

/-- Nor does the path of a file, even if it takes the host away. -/
theorem site_withFilePath {url : Url} (h : url.scheme = fileScheme) (cs : List Char) :
    (withFilePath url cs).site = { scheme := fileScheme, path := "" } :=
  (site_withQuery _ _).trans (site_of_file h)

/-! ## Hosts -/

/-- A socket is read up to a slash: it is unreadable whatever follows, or it leaves what follows. -/
theorem readSocket_slash (scheme : String) (before : List Char) :
    (∃ flaw, ∀ rest, readSocket scheme (before ++ '/' :: rest) = .error flaw) ∨
      ∃ socket left, ∀ rest, readSocket scheme (before ++ '/' :: rest) =
        .ok (socket, left ++ '/' :: rest) := by
  have hslash : Char.isDigit '/' = false := by decide
  cases before with
  | nil => exact Or.inr ⟨none, [], fun rest => rfl⟩
  | cons c cs =>
    by_cases hc : c = ':'
    · subst hc
      simp only [List.cons_append, readSocket, takeWhile_append_stop _ hslash,
        dropWhile_append_stop _ hslash]
      by_cases hlarge : UInt16.size ≤ numberOf (cs.takeWhile Char.isDigit)
      · exact Or.inl ⟨.badSocket, fun rest => if_pos hlarge⟩
      · simp only [if_neg hlarge]
        -- what comes right after the digits is the slash, or stands before it
        cases hleft : cs.dropWhile Char.isDigit with
        | nil => exact Or.inr ⟨_, [], fun rest => rfl⟩
        | cons d left =>
          by_cases hd : (!(d == '/' || d == '\\' || endsPath d)) = true
          · exact Or.inl ⟨.badSocket, fun rest => if_pos hd⟩
          · exact Or.inr ⟨_, d :: left, fun rest => if_neg hd⟩
    · refine Or.inr ⟨none, c :: cs, fun rest => ?_⟩
      rw [List.cons_append, readSocket]
      rintro _ h
      exact hc (List.cons.inj h).1

/-- Nor does anything behind the host and the socket. -/
theorem site_withRest (url : Url) (cs : List Char) : (withRest url cs).site = url.site := by
  unfold withRest
  split
  · exact site_withPath _ _
  · exact site_withPath _ _
  · split
    · exact site_withPath _ _
    · exact site_withQuery _ _

/-- The parts of an address behind its scheme, read up to a slash and on from there. -/
theorem readPlace_slash (scheme : String) (before rest : List Char) :
    let place := before.takeWhile fun c => !endsPlace (isSpecial scheme) c
    readPlace scheme (before ++ '/' :: rest) =
      (readServer scheme false place).bind fun (url, left) =>
        (readSocket scheme (left ++ before.drop place.length ++ '/' :: rest)).bind
          fun (socket, after) => .ok (withRest { url with socket } after) := by
  intro place
  have hplace : (before ++ '/' :: rest).takeWhile (fun c => !endsPlace (isSpecial scheme) c) =
      place :=
    takeWhile_append_stop (fun c => !endsPlace (isSpecial scheme) c) rfl before rest
  have hrest : (before ++ '/' :: rest).drop place.length =
      before.drop place.length ++ '/' :: rest :=
    List.drop_append_of_le_length (List.takeWhile_prefix _).length_le
  have hsome : (before.drop place.length ++ '/' :: rest).isEmpty = false := by
    rw [List.isEmpty_eq_false_iff]
    exact List.append_ne_nil_of_right_ne_nil _ (List.cons_ne_nil _ _)
  rw [readPlace]
  simp only [hplace, hrest, hsome, List.append_assoc]
  rfl

/-- **The place of an address is read up to a slash.** -/
theorem site_readPlace (scheme : String) (before rest other : List Char) :
    (readPlace scheme (before ++ '/' :: rest)).map site =
      (readPlace scheme (before ++ '/' :: other)).map site := by
  rw [readPlace_slash, readPlace_slash]
  cases readServer scheme false (before.takeWhile fun c => !endsPlace (isSpecial scheme) c) with
  | error flaw => rfl
  | ok read =>
    obtain ⟨url, left⟩ := read
    simp only [Except.bind]
    rcases readSocket_slash scheme
        (left ++
          before.drop (before.takeWhile fun c => !endsPlace (isSpecial scheme) c).length) with
      ⟨flaw, hflaw⟩ | ⟨socket, left', hsocket⟩
    · rw [hflaw, hflaw]
    · rw [hsocket, hsocket]
      simp only [Except.map, site_withRest]

/-! ## Up to a mark -/

/-- The mark before a key. -/
def mark : List Char := ['/', 'v', '2', '/']

/-- What is taken from the front up to a slash does not reach into a key. -/
theorem takeWhile_marked (p : Char → Bool) (hp : p '/' = false) (start key : List Char) :
    (start ++ mark ++ key).takeWhile p = start.takeWhile p := by
  rw [List.append_assoc]
  exact takeWhile_append_stop p hp start ('v' :: '2' :: '/' :: key)

/-- What is dropped from the front up to a slash does not reach into a key. -/
theorem dropWhile_marked (p : Char → Bool) (hp : p '/' = false) (start key : List Char) :
    (start ++ mark ++ key).dropWhile p = start.dropWhile p ++ mark ++ key := by
  rw [List.append_assoc, List.append_assoc]
  exact dropWhile_append_stop p hp start ('v' :: '2' :: '/' :: key)

/-- Before the last slash of a mark there are two characters at least. -/
theorem exists_cons_cons_slash (start : List Char) :
    ∃ a b before, ∀ key, start ++ mark ++ key = a :: b :: (before ++ '/' :: key) := by
  match start with
  | [] => exact ⟨'/', 'v', ['2'], fun key => rfl⟩
  | [a] => exact ⟨a, '/', ['v', '2'], fun key => rfl⟩
  | a :: b :: start =>
    refine ⟨a, b, start ++ ['/', 'v', '2'], fun key => ?_⟩
    simp [mark]

/-- The address of a file leads nowhere, unless its host cannot be read. -/
theorem site_readFile (start key other : List Char) :
    (readFile (start ++ mark ++ key)).map site = (readFile (start ++ mark ++ other)).map site := by
  obtain ⟨a, b, before, hsplit⟩ := exists_cons_cons_slash start
  have hhost : ∀ rest,
      (before ++ '/' :: rest).takeWhile (fun c => !((c == '/' || c == '\\') || endsPath c)) =
      before.takeWhile fun c => !((c == '/' || c == '\\') || endsPath c) := fun rest =>
    takeWhile_append_stop (fun c => !((c == '/' || c == '\\') || endsPath c)) rfl before rest
  have hfile : ∀ host rest,
      (withFilePath { scheme := fileScheme, host := some host, path := "/" } rest).site =
        { scheme := fileScheme, path := "" } := fun host rest => site_withFilePath rfl rest
  rw [hsplit, hsplit, readFile, readFile]
  dsimp only
  rw [hhost, hhost]
  split
  · split
    · simp only [Except.map, hfile]
    · cases Host.read _ with
      | error flaw => rfl
      | ok host => simp only [Except.map, hfile]
  · simp only [Except.map, hfile]

/-- Behind a scheme, an address with one key leads where it leads with another. -/
theorem site_afterScheme (scheme : String) (start key other : List Char) :
    (afterScheme scheme (start ++ mark ++ key)).map site =
      (afterScheme scheme (start ++ mark ++ other)).map site := by
  unfold afterScheme
  by_cases hfile : scheme = fileScheme
  · rw [if_pos hfile, if_pos hfile]
    exact site_readFile start key other
  rw [if_neg hfile, if_neg hfile]
  by_cases hspecial : isSpecial scheme = true
  · rw [if_pos hspecial, if_pos hspecial]
    -- the slashes behind a well-known scheme end before the mark does
    have hslashes : ∀ rest, (start ++ mark ++ rest).dropWhile (fun c => c == '/' || c == '\\') =
        ((start ++ ['/']).dropWhile (fun c => c == '/' || c == '\\') ++ ['v', '2']) ++
          '/' :: rest := by
      intro rest
      have hstop := dropWhile_append_stop (fun c => c == '/' || c == '\\') (c := 'v') rfl
        (start ++ ['/']) ('2' :: '/' :: rest)
      simpa [mark] using hstop
    rw [hslashes, hslashes]
    exact site_readPlace scheme _ key other
  · rw [if_neg hspecial, if_neg hspecial]
    obtain ⟨a, b, before, hsplit⟩ := exists_cons_cons_slash start
    rw [hsplit, hsplit]
    by_cases ha : a = '/'
    · subst ha
      by_cases hb : b = '/'
      · subst hb
        exact site_readPlace scheme before key other
      · simp [hb, Except.map, site_withPath]
    · have hquery : ∀ path rest, (withQuery { scheme, path } rest).site =
          site { scheme, path := "" } :=
        fun path rest => site_withQuery _ _
      simp [ha, Except.map, hquery]

/-! ## Addresses -/

/-- What is passed over in an address behind its mark stands behind it. -/
theorem tidy_marked (start : List Char) :
    ∃ start', ∀ key, ∃ key', tidy (start ++ mark ++ key) = start' ++ mark ++ key' := by
  let ends (c : Char) : Bool := c.toNat ≤ 0x20
  let keeps (c : Char) : Bool := !(c == '\t' || c == '\n' || c == '\r')
  refine ⟨(start.dropWhile ends).filter keeps,
    fun key => ⟨(key.reverse.dropWhile ends).reverse.filter keeps, ?_⟩⟩
  -- neither end of the mark is passed over, so what is passed over lies on one side of it
  have hback : ((start.dropWhile ends ++ mark ++ key).reverse.dropWhile ends).reverse =
      start.dropWhile ends ++ mark ++ (key.reverse.dropWhile ends).reverse := by
    have hstop := dropWhile_append_stop ends (c := '/') rfl key.reverse
      ('2' :: 'v' :: '/' :: (start.dropWhile ends).reverse)
    have hreverse : (start.dropWhile ends ++ mark ++ key).reverse =
        key.reverse ++ '/' :: '2' :: 'v' :: '/' :: (start.dropWhile ends).reverse := by
      simp [mark]
    rw [hreverse, hstop]
    simp [mark]
  have hmark : mark.filter keeps = mark := rfl
  show (((start ++ mark ++ key).dropWhile ends).reverse.dropWhile ends).reverse.filter keeps = _
  rw [dropWhile_marked ends rfl, hback, List.filter_append, List.filter_append, hmark]

/-- A scheme ends before the mark, if there is one. -/
theorem scheme?_marked (start : List Char) :
    (∀ key, scheme? (start ++ mark ++ key) = none) ∨
      ∃ scheme start', ∀ key, scheme? (start ++ mark ++ key) =
        some (scheme, start' ++ mark ++ key) := by
  have hdrop := dropWhile_marked isSchemeChar rfl start
  have htake := takeWhile_marked isSchemeChar rfl start
  cases start with
  | nil => exact Or.inl fun key => rfl
  | cons first start =>
    have hhead : ∀ key, (first :: start ++ mark ++ key).head?.any Char.isAlpha = first.isAlpha :=
      fun key => rfl
    cases hfirst : first.isAlpha with
    | false => exact Or.inl fun key => by rw [scheme?, hhead, hfirst]
    | true =>
      -- behind the characters of a scheme there is a colon, or there is none
      cases hleft : (first :: start).dropWhile isSchemeChar with
      | nil =>
        refine Or.inl fun key => ?_
        rw [scheme?, hhead, hfirst, hdrop, hleft]
        rfl
      | cons c left =>
        by_cases hc : c = ':'
        · subst hc
          refine Or.inr
            ⟨String.ofList (((first :: start).takeWhile isSchemeChar).map Char.toLower), left,
            fun key => ?_⟩
          rw [scheme?, hhead, hfirst, hdrop, htake, hleft]
          rfl
        · refine Or.inl fun key => ?_
          rw [scheme?, hhead, hfirst, hdrop, hleft]
          simp [hc]

/-- **Where an address leads does not hang on its key**: two addresses that differ only behind a
mark are both unreadable for the same reason, or lead to the same place. -/
theorem site_parse (start key other : String) :
    (parse (start ++ "/v2/" ++ key)).map site = (parse (start ++ "/v2/" ++ other)).map site := by
  have hlist : ∀ k : String, (start ++ "/v2/" ++ k).toList = start.toList ++ mark ++ k.toList :=
    fun k => by
      rw [String.toList_append, String.toList_append]
      rfl
  obtain ⟨start', htidy⟩ := tidy_marked start.toList
  obtain ⟨key', hkey⟩ := htidy key.toList
  obtain ⟨other', hother⟩ := htidy other.toList
  rw [parse, parse, hlist, hlist, hkey, hother]
  rcases scheme?_marked start' with hnone | ⟨scheme, behind, hscheme⟩
  · rw [hnone, hnone]
  · rw [hscheme, hscheme]
    exact site_afterScheme scheme behind key' other'

end Url

end TokenAudit
