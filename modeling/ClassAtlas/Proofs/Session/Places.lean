/-
Where the locations of a session are. All of them are in the stylesheet that the session has taken up
(`takenUp_of_gives`). If an editor names the root of its workspace by the URI of a file and the project there has a
stylesheet of its own, that is the one, and the URI of every location spells the components of the root, decoded, and
those of the stylesheet in the project. So sessions whose roots are different paths never give the same URI
(`project_places`).
-/
import ClassAtlas.Proofs.Locate
import ClassAtlas.Proofs.Session.Answers
import ClassAtlas.Proofs.Session.Root
import ClassAtlas.Proofs.Uri.Segments

namespace ClassAtlas

/-! ## The stylesheet of a project -/

namespace Sheet

/-- The names on the way from the root of a project to its stylesheet. -/
def projectNames : List Path.Name :=
  ["node_modules", "tachyons", "css", "tachyons.css"].map fun name => Text.Utf8.encode name.toList

theorem components_projectPath : projectPath.components = projectNames := by
  decide +kernel

theorem components_join_projectPath (root : Path) :
    (root.join projectPath).components = root.components ++ projectNames := by
  rw [root.components_join isAbsolute_projectPath, components_projectPath]

theorem components_join_projectPath_ne_nil (root : Path) : (root.join projectPath).components ≠ [] := by
  rw [components_join_projectPath]
  exact List.append_ne_nil_of_right_ne_nil _ (by decide)

end Sheet

namespace Files

theorem leads_of_readText {fs : Files} {p : Path} {text : String} (hp : p.bytes ≠ []) (h : fs.readText p = .ok text) :
    fs.Leads p (.file text.toUTF8) := by
  obtain ⟨loc, hloc, hentry⟩ := read_eq_ok_iff.1 (readText_eq_ok_iff.1 h)
  rw [← stat_eq_ok_iff hp, stat, hloc]
  simp only [bind, Except.bind, hentry]

end Files

/-- The URI of a location is that of the index. -/
theorem Index.uri_of_declarationAt {i : Index} {document : String} {p : Position} {d : Declaration}
    (h : (i.declarationAt document p).1 = some d) : d.uri = i.uri := by
  obtain ⟨name, -, hfind⟩ := Index.declarationAt_eq_some_iff.1 h
  obtain ⟨span, -, rfl⟩ := Option.map_eq_some_iff.1 hfind
  rfl

namespace Session

/-! ## Locations that are given -/

/-- A session gives a location at a moment of its history, in an answer. -/
def Gives (first : Session) (history : List Moment) (d : Declaration) : Prop :=
  ∃ done m rest a, history = done ++ m :: rest ∧ a ∈ ((past first done).react done.length m).answers ∧
    a.declaration = some d

theorem TakenUp.append {first : Session} {history : List Moment} {sheet : Sheet} {css : String}
    (h : TakenUp first history sheet css) (rest : List Moment) : TakenUp first (history ++ rest) sheet css := by
  obtain ⟨before, m, later, rfl, hm, hn, hc⟩ := h
  exact ⟨before, m, later ++ rest, by simp, hm, hn, hc⟩

/-- A location that a session gives is in the stylesheet that it has taken up. -/
theorem takenUp_of_gives {first : Session} (hf : first.build = .new) {history : List Moment} {d : Declaration}
    (h : Gives first history d) :
    ∃ sheet css, TakenUp first history sheet css ∧ Uri.ofPath? sheet.path = some d.uri := by
  obtain ⟨done, m, rest, a, rfl, ha, hd⟩ := h
  have hanswer : ∃ q : Pending, a = q.answer (past first (done ++ [m])).build.state.index? := by
    rw [past_concat]
    rcases mem_answers ha with ⟨uri, p, -, ⟨-, rfl⟩ | ⟨document, -, hq⟩⟩ | ⟨-, q, -, hq⟩
    · cases hd
    · exact ⟨_, hq⟩
    · exact ⟨q, hq⟩
  obtain ⟨q, rfl⟩ := hanswer
  obtain ⟨i, hi, hdeclared⟩ := Option.bind_eq_some_iff.1 hd
  have hready : (past first (done ++ [m])).build.state = .ready i := by
    cases hstate : (past first (done ++ [m])).build.state with
    | ready i' => rw [hstate] at hi; cases hi; rfl
    | _ => rw [hstate] at hi; cases hi
  obtain ⟨sheet, css, htaken, hmade⟩ := (sound_past hf (done ++ [m])).ready i hready
  refine ⟨sheet, css, ?_, ?_⟩
  · have htaken := htaken.append rest
    rwa [List.append_assoc] at htaken
  · rw [Index.uri_of_declarationAt hdeclared]
    exact (Index.ofText_eq_ok hmade).1

/-! ## Working in a project -/

/-- A session works in the project at a root. The last greeting before it begins to work names the root, by the URI of a
file that leads there, and when it begins, the stylesheet of the project can be read. -/
inductive WorksIn (root : Path) : List Moment → Prop
  | intro {early between later : List Moment} {greeted begun : Files} {g : Greeting} {u : Uri} {css : String}
      (named : g.root = some u) (leads : u.LeadsToFile root) (last : ∀ m ∈ between, ∀ g', m.input ≠ .greet g')
      (first : ∀ m ∈ early ++ between, m.input ≠ .begin)
      (read : begun.readText (root.join Sheet.projectPath) = .ok css) :
      WorksIn root (early ++ ⟨greeted, .greet g⟩ :: between ++ ⟨begun, .begin⟩ :: later)

/-- The root of a session is the one that its last greeting names. -/
theorem root_of_last_greeting (first : Session) (early : List Moment) (fs : Files) {g : Greeting} {u : Uri}
    {root : Path} (named : g.root = some u) (leads : u.LeadsToFile root) {between : List Moment}
    (last : ∀ m ∈ between, ∀ g', m.input ≠ .greet g') :
    (past first (early ++ ⟨fs, .greet g⟩ :: between)).root = some root := by
  have hroot : g.rootPath = some root := (rootPath_eq_some_iff g root).2 ⟨u, leads.2, .inl named⟩
  unfold past
  rw [after_append, after, (kept_after _ _ last).root, react_greet _ _ rfl, greet_session, hroot]
  rfl

/-- A session that works in a project takes up its stylesheet and no other. -/
theorem WorksIn.path_of_takenUp {root : Path} {history : List Moment} (h : WorksIn root history) {first : Session}
    {sheet : Sheet} {css : String} (ht : TakenUp first history sheet css) :
    sheet.path = root.join Sheet.projectPath := by
  obtain @⟨early, between, later, greeted, now, g, u, css', named, leads, last, hfirst, read⟩ := h
  obtain ⟨before, m, later', he, hm, hn, hchosen⟩ := ht
  have hquiet : ∀ m ∈ early ++ ⟨greeted, .greet g⟩ :: between, m.input ≠ .begin := by
    intro n hmem
    rcases List.mem_append.1 hmem with hmem | hmem
    · exact hfirst n (List.mem_append_left _ hmem)
    · rcases List.mem_cons.1 hmem with rfl | hmem
      · nofun
      · exact hfirst n (List.mem_append_right _ hmem)
  obtain ⟨rfl, rfl⟩ := first_begin_unique rfl hquiet hm hn he
  have hlocated := ((choose_ok_iff _ _ _ _).1 hchosen).1
  rw [root_of_last_greeting first early greeted named leads last,
    Sheet.locate_of_leads (Files.leads_of_readText (Sheet.bytes_join_projectPath root) read)] at hlocated
  cases hlocated
  rfl

/-- The URI of a location in a project is that of the project's stylesheet. -/
theorem WorksIn.ofPath?_eq_some {root : Path} {history : List Moment} (h : WorksIn root history) {first : Session}
    (hf : first.build = .new) {d : Declaration} (hd : Gives first history d) :
    Uri.ofPath? (root.join Sheet.projectPath) = some d.uri := by
  obtain ⟨sheet, css, ht, huri⟩ := takenUp_of_gives hf hd
  rwa [h.path_of_takenUp ht] at huri

theorem WorksIn.spells {root : Path} {history : List Moment} (h : WorksIn root history) {first : Session}
    (hf : first.build = .new) {d : Declaration} (hd : Gives first history d) :
    Uri.Spells d.uri.text (root.components ++ Sheet.projectNames) := by
  have hspells := Uri.spells_ofPath? (h.ofPath?_eq_some hf hd) (Sheet.components_join_projectPath_ne_nil root)
  rwa [Sheet.components_join_projectPath] at hspells

/-- Every location of a session that works in a project spells the way to the project's stylesheet, with the
components of the root as they are decoded. So locations of two such sessions have the same URI exactly if the roots
are the same path, component by component. -/
theorem project_places (hasClient : Bool) (fallback : Fallback) (known : Option Path) (root : Path)
    (history : List Moment) (h : WorksIn root history) (d : Declaration)
    (hd : Gives (.new hasClient fallback known) history d) :
    Uri.Spells d.uri.text (root.components ++ Sheet.projectNames) ∧
    ∀ hasClient' fallback' known' root' history', WorksIn root' history' →
      ∀ d', Gives (.new hasClient' fallback' known') history' d' →
        (d'.uri.text = d.uri.text ↔ root'.components = root.components) := by
  have hspells := h.spells rfl hd
  refine ⟨hspells, fun hasClient' fallback' known' root' history' h' d' hd' => ⟨fun htext => ?_, fun hroot => ?_⟩⟩
  · have hspells' := h'.spells rfl hd'
    rw [htext] at hspells'
    exact List.append_cancel_right (hspells'.names_unique hspells)
  · have huri := Uri.ofPath?_eq_some (h.ofPath?_eq_some rfl hd) (Sheet.components_join_projectPath_ne_nil root)
    have huri' := Uri.ofPath?_eq_some (h'.ofPath?_eq_some rfl hd') (Sheet.components_join_projectPath_ne_nil root')
    rw [Sheet.components_join_projectPath] at huri huri'
    rw [huri, huri', hroot]

/-- The URI of a file with some segments. -/
def sampleRoot (segments : List String) : Uri :=
  ⟨Uri.fileScheme, some ⟨[], none, none⟩, .rooted (segments.map String.toList), none, none⟩

/-- The files of a project with the stylesheet `.a{}`, at a root with some components. -/
def sampleProject (names : List Path.Name) : Files :=
  let sheet := names ++ Sheet.projectNames
  ⟨(sheet, .file ⟨#[0x2E, 0x61, 0x7B, 0x7D]⟩) :: (Files.empty sheet.dropLast).entries, []⟩

/-- An editor names the root of such a project and asks for `a`, once the index is built. -/
def sampleWork (segments : List String) (names : List Path.Name) : List Moment :=
  [⟨.empty [], .greet ⟨some (sampleRoot segments), [], none⟩⟩, ⟨sampleProject names, .begin⟩, ⟨.empty [], .buildEnds⟩,
    ⟨.empty [], .opened samplePage ⟨"html", "a"⟩⟩, ⟨.empty [], .asked samplePage ⟨0, 1⟩⟩]

/-- Where `a` is in such a project. -/
def samplePlace (names : List Path.Name) : Declaration :=
  ⟨⟨Uri.fileScheme, some ⟨[], none, none⟩,
    .rooted ((names ++ Sheet.projectNames).map (Uri.percentEncode Uri.codedInName)), none, none⟩, ⟨⟨0, 0⟩, ⟨0, 4⟩⟩⟩

/-- The components `a b` and `c#?;%é`. -/
def sampleNames : List Path.Name :=
  [[0x61, 0x20, 0x62], [0x63, 0x23, 0x3F, 0x3B, 0x25, 0xC3, 0xA9]]

theorem worksIn_sampleWork {segments : List String} {path : Path} {names : List Path.Name}
    (hpath : (sampleRoot segments).toPath? = some path)
    (hread : (sampleProject names).readText (path.join Sheet.projectPath) = .ok ".a{}") :
    WorksIn path (sampleWork segments names) := by
  have hleads : (sampleRoot segments).LeadsToFile path := ⟨rfl, (Uri.toPath?_eq_some_iff _ _).1 hpath⟩
  have hlast : ∀ m ∈ ([] : List Moment), ∀ g, m.input ≠ .greet g := List.forall_mem_nil _
  have hfirst : ∀ m ∈ ([] ++ [] : List Moment), m.input ≠ .begin := List.forall_mem_nil _
  exact .intro rfl hleads hlast hfirst hread

theorem gives_sampleWork {first : Session} {segments : List String} {names : List Path.Name}
    (h : ⟨4, some (samplePlace names)⟩ ∈
      ((past first ((sampleWork segments names).take 4)).react 4 ⟨.empty [], .asked samplePage ⟨0, 1⟩⟩).answers) :
    Gives first (sampleWork segments names) (samplePlace names) :=
  ⟨_, _, [], _, rfl, h, rfl⟩

/-- At the root `file:///a%20b%2Fc%23%3F%3B%25%C3%A9//` the place has the decoded components, and it is another than
at the root `file:///w`. -/
theorem sampleWork_places :
    (samplePlace sampleNames).uri.text = "file:///a%20b/c%23%3F;%25%C3%A9/node_modules/tachyons/css/tachyons.css" ∧
      Uri.Spells (samplePlace sampleNames).uri.text (sampleNames ++ Sheet.projectNames) ∧
      (samplePlace [[0x77]]).uri.text ≠ (samplePlace sampleNames).uri.text := by
  have hodd : WorksIn ⟨Uri.rootedBytes (sampleNames ++ [[], []])⟩
      (sampleWork ["a%20b%2Fc%23%3F%3B%25%C3%A9", "", ""] sampleNames) :=
    worksIn_sampleWork (by decide +kernel) (by decide +kernel)
  have hplain : WorksIn ⟨Uri.rootedBytes [[0x77]]⟩ (sampleWork ["w"] [[0x77]]) :=
    worksIn_sampleWork (by decide +kernel) (by decide +kernel)
  obtain ⟨hspells, hother⟩ := project_places true (.file ⟨[0x2F, 0x61]⟩) none _ _ hodd (samplePlace sampleNames)
    (gives_sampleWork (by decide +kernel))
  have hcomponents : (Path.mk (Uri.rootedBytes (sampleNames ++ [[], []]))).components = sampleNames := by decide +kernel
  rw [hcomponents] at hspells hother
  refine ⟨by decide +kernel, hspells, fun htext => ?_⟩
  have hroots := (hother true (.file ⟨[0x2F, 0x61]⟩) none _ _ hplain (samplePlace [[0x77]])
    (gives_sampleWork (by decide +kernel))).1 htext
  exact absurd hroots (by decide +kernel)

end Session

end ClassAtlas
