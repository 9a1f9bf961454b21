import GatewayConsole.Proofs.Pricing.TagLists
import GatewayConsole.Proofs.Report.StyleSwitches
import GatewayConsole.Report.Contents
import GatewayConsole.Report.Header
import GatewayConsole.Report.Pricing
import GatewayConsole.Report.Tokens

/-!
# Reports in colors

Every report is put together from pieces with and without a style. As long as the texts it
shows have no escapes, its colors come off: without the switches of style a report is what it
is without colors.
-/

namespace GatewayConsole

def Translator.IsInert (translate : Translator) : Prop :=
  ∀ label, Text.IsInert label → Text.IsInert (translate label)

/-! ## Links -/

namespace ResolvedLink

mutual
def IsInert : ResolvedLink → Prop
  | .mk _ text href _ children =>
      Text.IsInert text ∧ (∀ path ∈ href, Text.IsInert path) ∧ AllInert children

def AllInert : List ResolvedLink → Prop
  | [] => True
  | link :: rest => IsInert link ∧ AllInert rest
end

theorem isInert_indentation (depth : Nat) : Text.IsInert (indentation depth) := by
  refine Text.isInert_ofList fun member => ?_
  exact absurd (List.eq_of_mem_replicate member) (by decide)

theorem isInert_destination {href : Option String} (inert : ∀ path ∈ href, Text.IsInert path)
    (external : Bool) : Styled.IsInert (destination href external) := by
  cases href with
  | none => exact Styled.isInert_inStyle_iff.mpr (by decide)
  | some path =>
      have here := inert path rfl
      cases external with
      | true => simp +decide [destination, here]
      | false => exact Styled.isInert_inStyle_iff.mpr here

mutual
theorem isInert_lines : ∀ {link : ResolvedLink} (depth : Nat), link.IsInert →
    ∀ line ∈ lines depth link, Styled.IsInert line
  | .mk _ text href external children, depth, inert => by
      rcases inert with ⟨textInert, hrefInert, childrenInert⟩
      have first : Styled.IsInert (.plain (indentation depth) ++ .inStyle .bold text
          ++ .plain " → " ++ destination href external) := by
        simp +decide [isInert_indentation, textInert, isInert_destination hrefInert]
      rw [lines]
      exact List.forall_mem_cons.mpr ⟨first, isInert_allLines (depth + 1) childrenInert⟩

theorem isInert_allLines : ∀ {links : List ResolvedLink} (depth : Nat), AllInert links →
    ∀ line ∈ allLines depth links, Styled.IsInert line
  | [], _, _ => List.forall_mem_nil _
  | link :: rest, depth, inert => by
      rw [allLines]
      exact List.forall_mem_append.mpr
        ⟨isInert_lines depth inert.1, isInert_allLines depth inert.2⟩
end

theorem isInert_listText {links : List ResolvedLink} (inert : AllInert links) :
    Styled.IsInert (listText links) :=
  Styled.isInert_join (by decide) (isInert_allLines 1 inert)

end ResolvedLink

/-! ## Facets -/

namespace FacetLine

theorem isInert_marker (line : FacetLine) : Text.IsInert line.marker := by
  rw [marker]
  split <;> decide

theorem isInert_text {line : FacetLine} (inert : Text.IsInert line.label) :
    Styled.IsInert line.text := by
  rw [text]
  split <;> simp +decide [isInert_marker, inert]

theorem isInert_listText {α : Type} [DecidableEq α] {title : String}
    {options : List (FacetOption α)} (titleInert : Text.IsInert title)
    (inert : ∀ choice ∈ options, Text.IsInert choice.label) (chosen : Choice α) :
    Styled.IsInert (listText title options chosen) := by
  refine Styled.isInert_join (by decide) (List.forall_mem_cons.mpr ⟨?_, ?_⟩)
  · exact Styled.isInert_inStyle_iff.mpr titleInert
  · rw [ofOptions, List.map_map]
    refine List.forall_mem_map.mpr fun choice member => ?_
    exact isInert_text (inert choice member)

end FacetLine

namespace Facets

structure IsInert (facets : Facets) : Prop where
  vendor : ∀ choice ∈ facets.vendor, Text.IsInert choice.label
  tag : ∀ choice ∈ facets.tag, Text.IsInert choice.label
  group : ∀ choice ∈ facets.group, Text.IsInert choice.label
  billing : ∀ choice ∈ facets.billing, Text.IsInert choice.label
  endpointType : ∀ choice ∈ facets.endpointType, Text.IsInert choice.label

theorem isInert_text {facets : Facets} {translate : Translator} (inert : facets.IsInert)
    (translated : translate.IsInert) (criteria : Criteria) :
    Styled.IsInert (facets.text criteria translate) := by
  refine Styled.isInert_join (by decide) ?_
  simp only [List.forall_mem_cons, List.not_mem_nil, false_implies, implies_true, and_true]
  exact
    ⟨FacetLine.isInert_listText (translated _ (by decide)) inert.vendor criteria.vendor,
      FacetLine.isInert_listText (translated _ (by decide)) inert.tag criteria.tag,
      FacetLine.isInert_listText (translated _ (by decide)) inert.group criteria.group,
      FacetLine.isInert_listText (translated _ (by decide)) inert.billing criteria.billing,
      FacetLine.isInert_listText (translated _ (by decide)) inert.endpointType
        criteria.endpointType⟩

end Facets

/-! ## Models -/

theorem Tags.isInert_of_mem_ofText {raw tag : String} (inert : Text.IsInert raw)
    (member : tag ∈ ofText raw) : Text.IsInert tag := by
  rcases mem_ofText_iff_piece.mp member with ⟨_, piece, isPiece, rfl⟩
  intro found
  rw [normalForm, Text.toList_lower, Text.toList_trim, String.toList_ofList] at found
  have kept := Text.mem_of_isMark_of_mem_lowerAfter (by decide) found
  exact inert (Text.mem_of_mem_piece isPiece ((Text.trimChars_sublist piece).subset kept)).1

namespace Model

structure IsInert (model : Model) : Prop where
  name : Text.IsInert model.name
  vendor : ∀ vendor ∈ model.vendorName, Text.IsInert vendor
  tags : ∀ raw ∈ model.tags, Text.IsInert raw

theorem isInert_priced {text : String} (inert : Text.IsInert text) (number : Option Float) :
    Text.IsInert (priced text number) := by
  cases number with
  | none => exact (by decide : Text.IsInert "")
  | some number => simp [priced, inert]

theorem isInert_billingText {translate : Translator} (translated : translate.IsInert)
    (model : Model) : Styled.IsInert (model.billingText translate) := by
  rw [billingText]
  split
  · have label := translated Billing.perToken.label (by decide)
    simp +decide [label, isInert_priced]
  · have label := translated Billing.perRequest.label (by decide)
    simp +decide [label, isInert_priced]
  · exact Styled.isInert_inStyle_iff.mpr (by decide)

theorem isInert_tagsText {tags : List String} (inert : ∀ tag ∈ tags, Text.IsInert tag) :
    Styled.IsInert (tagsText tags) := by
  rw [tagsText]
  split
  · exact Styled.isInert_nil
  · have joined : Text.IsInert (", ".intercalate tags) :=
      Text.isInert_intercalate (by decide) inert
    simp +decide [joined]

theorem isInert_line {model : Model} {translate : Translator} (inert : model.IsInert)
    (translated : translate.IsInert) : Styled.IsInert (model.line translate) := by
  have vendor : Text.IsInert (model.vendor.getD (translate "Unknown vendor")) := by
    cases named : model.vendor with
    | none => exact translated _ (by decide)
    | some vendor => exact inert.vendor vendor (Option.mem_filter_iff.mp named).1
  have tags : Styled.IsInert (tagsText model.tagList) := by
    refine isInert_tagsText fun tag member => ?_
    rcases mem_tagList.mp member with ⟨raw, isRaw, listed⟩
    exact Tags.isInert_of_mem_ofText (inert.tags raw isRaw) listed
  simp +decide [line, inert.name, vendor, isInert_billingText translated, tags]

theorem isInert_listText {models : List Model} {translate : Translator}
    (inert : ∀ model ∈ models, model.IsInert) (translated : translate.IsInert) :
    Styled.IsInert (listText models translate) := by
  rw [listText]
  split
  · exact Styled.isInert_inStyle_iff.mpr (translated _ (by decide))
  · refine Styled.isInert_join (by decide) (List.forall_mem_map.mpr fun model member => ?_)
    exact isInert_line (inert model member) translated

end Model

/-! ## Switches -/

namespace ModuleRow

variable {row : ModuleRow} {rows : List ModuleRow}

structure IsInert (row : ModuleRow) : Prop where
  title : Text.IsInert row.title
  description : Text.IsInert row.description

theorem isInert_lines (inert : row.IsInert) : ∀ line ∈ row.lines, Styled.IsInert line := by
  have state :
      Styled.IsInert (if row.enabled then .inStyle .green "on " else .inStyle .red "off") := by
    split <;> exact Styled.isInert_inStyle_iff.mpr (by decide)
  have answer (requiresLogin : Bool) : Text.IsInert (if requiresLogin then "yes" else "no") := by
    cases requiresLogin <;> decide
  rw [lines]
  split <;> simp +decide [state, inert.title, inert.description, answer]

theorem isInert_listText (inert : ∀ row ∈ rows, row.IsInert) : Styled.IsInert (listText rows) := by
  refine Styled.isInert_join (by decide) fun line member => ?_
  rcases List.mem_flatMap.mp member with ⟨row, isRow, isLine⟩
  exact isInert_lines (inert row isRow) line isLine

end ModuleRow

/-! ## Tokens -/

namespace TokenRow

variable {row : TokenRow}

structure IsInert (row : TokenRow) : Prop where
  name : Text.IsInert row.name
  key : Text.IsInert row.key
  quota : Text.IsInert row.quota
  group : Text.IsInert row.group

theorem isInert_statusText (status : TokenStatus) : Styled.IsInert (statusText status) := by
  cases status <;> exact Styled.isInert_inStyle_iff.mpr (by decide)

theorem isInert_expiryText (seconds : Option Int) : Text.IsInert (expiryText seconds) := by
  rw [expiryText]
  cases seconds.bind Calendar.dateOf? with
  | none => exact (by decide : Text.IsInert "never")
  | some date => exact Date.isInert_toText date

theorem isInert_line (inert : row.IsInert) : Styled.IsInert row.line := by
  have check : Text.IsInert (if row.selected then "[x]" else "[ ]") := by
    split <;> decide
  simp +decide [line, check, inert.name, inert.key, inert.quota, inert.group, isInert_statusText,
    isInert_expiryText]

end TokenRow

namespace TokenReport

variable {report : TokenReport}

theorem isInert_stateText (state : PageState) : Styled.IsInert (stateText state) := by
  cases state <;> exact Styled.isInert_inStyle_iff.mpr (by decide)

theorem isInert_text (inert : ∀ row ∈ report.rows, row.IsInert) : Styled.IsInert report.text := by
  refine Styled.isInert_join (by decide) (List.forall_mem_cons.mpr ⟨?_, ?_⟩)
  · simp +decide [isInert_stateText]
  · exact List.forall_mem_map.mpr fun row member => TokenRow.isInert_line (inert row member)

end TokenReport

/-! ## Contents -/

theorem NoticeReport.isInert_text {report : NoticeReport} (inert : Text.IsInert report.content) :
    Styled.IsInert report.text := by
  rw [text]
  split
  · exact Styled.isInert_plain_iff.mpr inert
  · split <;> exact Styled.isInert_inStyle_iff.mpr (by decide)

def HomePage.IsInert : HomePage → Prop
  | .standard => True
  | .embedded url => Text.IsInert url
  | .document body => Text.IsInert body

namespace HomeReport

variable {report : HomeReport}

structure IsInert (report : HomeReport) : Prop where
  contents : report.contents.IsInert
  footer : ∀ footer ∈ report.footer, Text.IsInert footer

theorem isInert_contentsText : ∀ {contents : HomePage}, contents.IsInert →
    Styled.IsInert (contentsText contents)
  | .standard, _ => Styled.isInert_inStyle_iff.mpr (by decide)
  | .embedded url, inert => by
      have here : Text.IsInert url := inert
      simp +decide [contentsText, here]
  | .document _, inert => Styled.isInert_plain_iff.mpr inert

theorem isInert_footerText {footer : Option String} (inert : ∀ text ∈ footer, Text.IsInert text) :
    Styled.IsInert (footerText footer) := by
  cases footer with
  | none => exact Styled.isInert_nil
  | some text =>
      have here := inert text rfl
      simp +decide [footerText, here]

theorem isInert_cachedText (cached : Bool) : Styled.IsInert (cachedText cached) := by
  cases cached with
  | false => exact Styled.isInert_nil
  | true => simp +decide [cachedText]

theorem isInert_text (inert : report.IsInert) : Styled.IsInert report.text := by
  simp [text, isInert_contentsText inert.contents, isInert_footerText inert.footer,
    isInert_cachedText]

end HomeReport

/-! ## Reports -/

inductive StyledReport
  | header (links : List ResolvedLink)
  | options (facets : Facets) (criteria : Criteria) (translate : Translator)
  | catalog (models : List Model) (translate : Translator)
  | switches (rows : List ModuleRow)
  | tokens (report : TokenReport)
  | notice (report : NoticeReport)
  | home (report : HomeReport)

namespace StyledReport

def text : StyledReport → Styled
  | .header links => ResolvedLink.listText links
  | .options facets criteria translate => facets.text criteria translate
  | .catalog models translate => Model.listText models translate
  | .switches rows => ModuleRow.listText rows
  | .tokens report => report.text
  | .notice report => report.text
  | .home report => report.text

def IsInert : StyledReport → Prop
  | .header links => ResolvedLink.AllInert links
  | .options facets _ translate => facets.IsInert ∧ translate.IsInert
  | .catalog models translate => (∀ model ∈ models, model.IsInert) ∧ translate.IsInert
  | .switches rows => ∀ row ∈ rows, row.IsInert
  | .tokens report => ∀ row ∈ report.rows, row.IsInert
  | .notice report => Text.IsInert report.content
  | .home report => report.IsInert

theorem isInert_text {report : StyledReport} (inert : report.IsInert) :
    Styled.IsInert report.text := by
  cases report with
  | header links => exact ResolvedLink.isInert_listText inert
  | options facets criteria translate => exact Facets.isInert_text inert.1 inert.2 criteria
  | catalog models translate => exact Model.isInert_listText inert.1 inert.2
  | switches rows => exact ModuleRow.isInert_listText inert
  | tokens report => exact TokenReport.isInert_text inert
  | notice report => exact NoticeReport.isInert_text inert
  | home report => exact HomeReport.isInert_text inert

/-- A report without escapes in its texts is, in colors, the plain one with styles that take
turns. Its switches of style are those of its pieces. -/
theorem colors_come_off {report : StyledReport} (inert : report.IsInert) :
    Style.Dresses (report.text.render true).toList (report.text.render false).toList ∧
      Style.switches (report.text.render true).toList = report.text.flatMap Piece.switches := by
  rw [Styled.render, Styled.render, String.toList_ofList, String.toList_ofList]
  have pieces := isInert_text inert
  exact ⟨Styled.dresses_renderChars pieces, Styled.switches_renderChars pieces⟩

/-- A menu with a page on another site. -/
theorem colors_come_off_of_menu :
    let page : ResolvedLink := .mk "guide" "Guide" (some "https://docs.example") true []
    let report := StyledReport.header [.mk "docs" "Docs" none false [page]]
    report.IsInert ∧
      report.text.render false = "  Docs → menu\n    Guide → https://docs.example (external)" ∧
      Style.Dresses (report.text.render true).toList (report.text.render false).toList ∧
      report.text.flatMap Piece.switches =
        [['1'], ['0'], ['2'], ['0'], ['1'], ['0'], ['3', '4'], ['0'], ['2'], ['0']] ∧
      Style.switches (report.text.render true).toList = report.text.flatMap Piece.switches := by
  intro page report
  have inert : report.IsInert := by
    simp +decide [report, page, IsInert, ResolvedLink.AllInert, ResolvedLink.IsInert]
  have dressed := colors_come_off inert
  exact ⟨inert, by decide +kernel, dressed.1, by decide, dressed.2⟩

end StyledReport
end GatewayConsole
