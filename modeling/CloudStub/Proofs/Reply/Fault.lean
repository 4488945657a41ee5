import CloudStub.Proofs.Json.Strings
import CloudStub.Proofs.Reply.Completion
import CloudStub.Proofs.Text.Utf8
import CloudStub.Proofs.Xml.ReadBack
import CloudStub.Reply.Fault

/-!
# Error answers as documents

The XML form of an error is a text of its own and does not come from the writer of structured
values.  It is the same text as that of an element, so it reads back as that element.

The three forms of an error begin with different characters.

## Main Definitions

- `Fault.markup`: the element of an error
- `ReportsIn`: what a body says as an error in a format
- `Http.Response.Reports`: what a message says as an error in a format

## Main Statements

- `Fault.toList_xml`: the XML form of an error is its element
- `Fault.outline_of_read_xml`: the elements in it, whatever the texts are
- `Fault.bodies_decode`: what the bodies of an error are read as, in JSON and in XML
- `Fault.reports_complete`: the message of an error reports it, in every format
- `Fault.head?_text`, `Fault.head?_json`: how the other forms begin
-/

namespace CloudStub

/-! ### What is reported -/

/-- What a body says as an error in a format: it has the code and the message as they are, in a
line of text, in an object without further members, or in an element of the requester's side. -/
def ReportsIn (code message : String) : Format → Bytes → Prop
  | .text, body => Utf8.decode? body = some ("ERROR! " ++ code ++ ": " ++ message)
  | .json, body => ∃ members : Dict Json, Json.parseBytes? body = some (.obj members) ∧
      members.toList = [("code", .str code), ("message", .str message)]
  | .xml, body => ∃ outer inner requestId : String,
    (∀ c ∈ outer.toList ++ inner.toList, Xml.Tree.isLayout c = true) ∧
      (Utf8.decode? body).bind Xml.read = some
        (.element "ErrorResponse" [] outer
          [.element "Error" [] inner
            [.element "Type" [] "Sender" [], .element "Code" [] code [],
              .element "Message" [] message []],
          .element "RequestId" [] requestId []])

/-- What a message says as an error in a format. -/
structure Http.Response.Reports (m : Http.Response) (status : Nat) (code message : String)
    (format : Format) : Prop where
  /-- The status. -/
  status : m.status = status
  /-- The content type is that of the format. -/
  contentType : m.headers.first? "content-type" = some (.ofText
    (match format with
      | .text => "text/plain"
      | .json => "application/json"
      | .xml => "text/xml"))
  /-- The body says it in the format. -/
  body : ReportsIn code message format m.body

namespace Fault

open Xml

/-- The element of an error. -/
def markup (f : Fault) : Markup :=
  .block "ErrorResponse" [] none
    [.block "Error" [] none
      [.text "Type" [] f.side, .text "Code" [] f.code, .text "Message" [] f.message],
     .text "RequestId" [] f.requestId]

theorem legal_markup (f : Fault) : f.markup.legal = true := by
  have hnames : ∀ n ∈ ["ErrorResponse", "Error", "Type", "Code", "Message", "RequestId"],
      isName n = true := by
    decide +kernel
  simp only [List.forall_mem_cons] at hnames
  simp [markup, Markup.legal, Markup.allLegal, Markup.legalAttributes, hnames]

/-- The XML form of an error is its element, line by line. -/
theorem toList_xml (f : Fault) : f.xml.toList = f.markup.chars 0 := by
  have hmargin1 : blanks 1 = [' ', ' '] := rfl
  have hmargin2 : blanks 2 = [' ', ' ', ' ', ' '] := rfl
  have hchars : f.markup.chars 0 = "<ErrorResponse>\n  <Error>\n    <Type>".toList ++
      (escaped f.side ++ ("</Type>\n    <Code>".toList ++ (escaped f.code ++
        ("</Code>\n    <Message>".toList ++ (escaped f.message ++
          ("</Message>\n  </Error>\n  <RequestId>".toList ++ (escaped f.requestId ++
            "</RequestId>\n</ErrorResponse>".toList))))))) := by
    simp only [markup, Markup.chars_block, Markup.blockChars, Markup.allLines, Markup.lines,
      Markup.ownLines, Line.chars, Markup.startTag, Markup.endTag, Markup.attributeText,
      Markup.attributeChars, String.toList_append, toList_escape, hmargin1, hmargin2,
      blanks_zero, List.flatMap_cons, List.flatMap_nil, List.append_nil, List.nil_append,
      String.reduceToList, List.append_assoc, List.cons_append]
  rw [hchars]
  unfold xml
  simp only [String.toList_append, toList_escape, List.append_assoc]

/-- How the XML form of an error begins. -/
theorem toList_xml_append (f : Fault) : ∃ rest, f.xml.toList =
    '<' :: ("ErrorResponse".toList ++ '>' :: ("\n  <Error>".toList ++ rest)) := by
  unfold xml
  simp only [String.toList_append, String.reduceToList, List.append_assoc, List.cons_append,
    List.nil_append]
  exact ⟨_, rfl⟩

theorem read_xml (f : Fault) : read f.xml = some (f.markup.asRead 0) :=
  read_eq_some f.legal_markup f.toList_xml

/-- The elements in the XML form of an error do not depend on its texts. -/
theorem outline_of_read_xml {f : Fault} {t : Tree} (h : read f.xml = some t) :
    t.outline = f.markup.tree.outline := by
  obtain rfl : f.markup.asRead 0 = t := Option.some.inj (f.read_xml.symm.trans h)
  rw [← Tree.outline_trimmed, Markup.trimmed_asRead, Tree.outline_trimmed]

theorem parse?_json (f : Fault) : ∃ members : Dict Json,
    Json.parse? f.json = some (.obj members) ∧
      members.toList = [("code", .str f.code), ("message", .str f.message)] := by
  have hjson : f.json = (Json.ofStrings [("code", f.code), ("message", f.message)]).text := rfl
  have hkeys : ("code" : String) < "message" := by decide
  have hsorted : Entries.Sorted [("code", f.code), ("message", f.message)] :=
    List.pairwise_pair.2 hkeys
  rw [hjson, Json.parse?_text_ofStrings hsorted]
  exact ⟨_, rfl, Dict.toList_ofList (Json.sorted_strings hsorted)⟩

/-- The bytes of an error are those of its body. -/
theorem decode?_draft (f : Fault) (format : Format) :
    Utf8.decode? (f.draft format).body = some (f.body format) := by
  rw [draft, Utf8.decode?_encode]

/-- The XML form of an error is read as its elements, with the layout of the document in two of
their texts. -/
theorem read_xml_elements (f : Fault) : read f.xml = some
    (.element "ErrorResponse" [] "\n  \n  \n"
      [.element "Error" [] "\n    \n    \n    \n  "
        [.element "Type" [] f.side [], .element "Code" [] f.code [],
          .element "Message" [] f.message []],
      .element "RequestId" [] f.requestId []]) := by
  rw [read_xml]
  rfl

/-- The message of an error reports it, in every format. -/
theorem reports_complete {f : Fault} (hside : f.side = "Sender")
    (hstatus : Draft.isStatus f.status = true) (format : Format) :
    (f.draft format).complete.Reports f.status f.code f.message format where
  status := if_pos hstatus
  contentType := by
    have htype : (f.draft format).contentType = format.contentType := rfl
    rw [Draft.contentType_complete rfl, htype]
    cases format <;> decide +kernel
  body := by
    have hbody : (f.draft format).complete.body = (f.draft format).body := rfl
    rw [hbody]
    cases format with
    | text => exact f.decode?_draft .text
    | json =>
      rw [ReportsIn, Json.parseBytes?, decode?_draft, Option.bind_some]
      exact f.parse?_json
    | xml =>
      rw [ReportsIn, decode?_draft, Option.bind_some, Fault.body, read_xml_elements, hside]
      exact ⟨_, _, _, by simp [Tree.isLayout], rfl⟩

/-- What the bodies of an error are read as: the JSON one as an object whose only members are the
code and the message, the XML one as the elements of an error, in which the same code and the same
message stand as they are and nothing else but the layout of the document. -/
theorem bodies_decode (f : Fault) :
    (∃ members : Dict Json, Json.parseBytes? (f.draft .json).body = some (.obj members) ∧
        members.toList = [("code", .str f.code), ("message", .str f.message)]) ∧
      ∃ outer inner : String, (∀ c ∈ outer.toList ++ inner.toList, Tree.isLayout c = true) ∧
        (Utf8.decode? (f.draft .xml).body).bind read = some
          (.element "ErrorResponse" [] outer
            [.element "Error" [] inner
              [.element "Type" [] f.side [], .element "Code" [] f.code [],
                .element "Message" [] f.message []],
            .element "RequestId" [] f.requestId []]) := by
  rw [Json.parseBytes?, decode?_draft, decode?_draft, Option.bind_some, Option.bind_some, body,
    body]
  refine ⟨f.parse?_json, "\n  \n  \n", "\n    \n    \n    \n  ",
    by simp [Tree.isLayout], ?_⟩
  rw [read_xml_elements]

theorem head?_text (f : Fault) : f.text.toList.head? = some 'E' := by
  simp [text]

theorem head?_json (f : Fault) : f.json.toList.head? = some '\x7b' := by
  simp [json, Json.ofMembers, Json.text]

end Fault

end CloudStub
