import FoldMark.Proofs.Site.Containment
import FoldMark.Proofs.Tree.Layout

/-!
# Secrecy of what stands outside of the root

An answer never tells what a file outside of the root holds. Up to the source that is found, a
request only asks for the kind of what it meets. The source is a real place, so the file that is
checked to lie below the root is the one that is read afterwards, through whatever links the request
has led. `respond_eq_of_agree` states this for two trees that may differ in all files outside of the
root.
-/

namespace FoldMark.Site

variable {tree other : Tree} {root place : Place} {index : List Char}

/-! ## Sources -/

/-- A candidate leads to the same path in trees of one layout. -/
theorem candidatePath_eq (layout : tree.SameLayout other) (root : Place) (index : List Char)
    (names : List Name) :
    candidatePath tree root index names = candidatePath other root index names := by
  rw [candidatePath, candidatePath, layout.isDirectory_eq]

/-- A path leads to a document in trees of one layout or in none. -/
theorem isDocument_eq (layout : tree.SameLayout other) (path : Path) :
    isDocument tree path = isDocument other path := by
  rw [isDocument, isDocument, layout.isFile_eq]

/-- The same source is found in trees of one layout. -/
theorem findSource_eq_of_sameLayout (layout : tree.SameLayout other) (root : Place)
    (index : List Char) (candidates : List (List Name)) :
    findSource tree root index candidates = findSource other root index candidates := by
  induction candidates with
  | nil => rfl
  | cons names rest hypothesis =>
    simp only [findSource, candidatePath_eq layout, isDocument_eq layout, layout.resolve_eq,
      hypothesis]

/-- The path of a candidate starts at the top of the tree, whatever the index is. -/
theorem isAbsolute_of_candidatePath {names : List Name} {path : Path}
    (leads : candidatePath tree root index names = .ok path) : path.isAbsolute = true := by
  rcases candidatePath_cases leads with rfl | rfl
  · exact isAbsolute_pathBelow root names
  · rw [Path.join]
    split
    · assumption
    · rfl

/-- A source that is found is a real place below the root. -/
theorem isReal_of_findSource {candidates : List (List Name)}
    (found : findSource tree root index candidates = .ok place) :
    tree.IsReal place ∧ isBelow root place = true := by
  induction candidates with
  | nil => cases found
  | cons names rest hypothesis =>
    rw [findSource] at found
    cases leads : candidatePath tree root index names with
    | error error =>
      rw [leads] at found
      cases found
    | ok path =>
      cases document : isDocument tree path with
      | error error =>
        simp only [leads, document] at found
        cases found
      | ok isDocument =>
        cases isDocument with
        | false => exact hypothesis (by simpa only [leads, document] using found)
        | true =>
          cases resolved : tree.resolve path with
          | error error =>
            simp only [leads, document, resolved] at found
            cases found
          | ok real =>
            simp only [leads, document, resolved] at found
            split at found
            case isTrue below =>
              obtain rfl : real = place := Except.ok.inj found
              exact ⟨Tree.isReal_of_resolve (isAbsolute_of_candidatePath leads) resolved, below⟩
            case isFalse => cases found

/-! ## Answers -/

/-- The answer that the document at a real place is depends on that document alone. -/
theorem respondWith_eq (layout : tree.SameLayout other) (real : tree.IsReal place)
    (same : tree.node? place = other.node? place) (extensions : Extensions)
    (format : PayloadFormat) :
    respondWith tree extensions place format = respondWith other extensions place format := by
  have read := layout.read_eq real same
  simp only [respondWith, Page.ofFile, Tree.readText, read]

/-- What a file outside of the root holds has no influence on any answer. Two trees may differ in
what their files hold, as long as the files whose real places are below that of the root hold the
same: every request has the same answer in both, whatever links it meets and wherever the index is
said to be. -/
theorem respond_eq_of_agree (layout : tree.SameLayout other) (extensions : Extensions)
    (root : Path) (index url : List Char)
    (agree : ∀ real, tree.resolve root = .ok real → ∀ place, tree.IsReal place →
      isBelow real place = true → tree.node? place = other.node? place) :
    respond tree extensions root index url = respond other extensions root index url := by
  rw [respond, respond, ← layout.resolve_eq root]
  cases Request.ofUrl url with
  | error refusal => rfl
  | ok request =>
    cases resolved : tree.resolve root with
    | error error => rfl
    | ok real =>
      simp only [← findSource_eq_of_sameLayout layout]
      cases found : findSource tree real index request.candidates with
      | error failure => rfl
      | ok place =>
        obtain ⟨isReal, below⟩ := isReal_of_findSource found
        exact respondWith_eq layout isReal (agree real resolved place isReal below) extensions _

/-- A root that is a link, with a link out of it and a file that the link leads to. -/
def linkedRoot (secret : List UInt8) : Tree :=
  ⟨[(["site".toList], .link "pages".toList), (["pages".toList], .directory),
    (["pages".toList, "a.md".toList], .link "../secret.md".toList),
    (["secret.md".toList], .file secret)], []⟩

/-- The link out of the root is refused, and so is the index beside the root; neither tells what the
file holds. -/
theorem respond_linkedRoot :
    let root : Path := ⟨.none, ["site".toList]⟩
    (linkedRoot [65]).SameLayout (linkedRoot [66]) ∧
      (linkedRoot [65]).resolve root = .ok ["pages".toList] ∧
      respond (linkedRoot [65]) {} root "index.md".toList "/a".toList =
        respond (linkedRoot [66]) {} root "index.md".toList "/a".toList ∧
      respond (linkedRoot [65]) {} root "../secret.md".toList "/".toList =
        respond (linkedRoot [66]) {} root "../secret.md".toList "/".toList := by
  have layout : (linkedRoot [65]).SameLayout (linkedRoot [66]) := .of_nodes rfl rfl
  have resolved : (linkedRoot [65]).resolve ⟨.none, ["site".toList]⟩ = .ok ["pages".toList] := by
    cbv
  have agree : ∀ real, (linkedRoot [65]).resolve ⟨.none, ["site".toList]⟩ = .ok real →
      ∀ place, (linkedRoot [65]).IsReal place → isBelow real place = true →
        (linkedRoot [65]).node? place = (linkedRoot [66]).node? place := by
    rintro real leads place - below
    obtain rfl : ["pages".toList] = real := Except.ok.inj (resolved.symm.trans leads)
    have apart : (place == ["secret.md".toList]) = false := by
      rw [beq_eq_false_iff_ne]
      rintro rfl
      exact absurd below (by decide)
    simp only [Tree.node?, linkedRoot, List.lookup_cons, List.lookup_nil, apart]
  exact ⟨layout, resolved, respond_eq_of_agree layout {} _ _ _ agree,
    respond_eq_of_agree layout {} _ _ _ agree⟩

end FoldMark.Site
