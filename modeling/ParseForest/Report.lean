import ParseForest.Limits
import ParseForest.Text.Span

namespace ParseForest
open Text

inductive Report where
  | node (message : String) (span : Span) (context : Option String) (children : List Report)

namespace Report

def message : Report → String
  | node message _ _ _ => message

def span : Report → Span
  | node _ span _ _ => span

def children : Report → List Report
  | node _ _ _ children => children

def leaf (message : String) (span : Span) : Report :=
  node message span none []

def expected (what : String) (span : Span) : Report :=
  leaf ("Expected " ++ what) span

def failedToMatch (what : String) (span : Span) : Report :=
  leaf ("Failed to match " ++ what) span

mutual
-- The span that starts last in the tree. The top's own span wins a tie, and among the children the last one that
-- reaches the greatest offset decides.
def deepest : Report → Span
  | node _ span _ children =>
    match deepestOf children with
    | some below => if span.start.offset < below.start.offset then below else span
    | none => span

def deepestOf : List Report → Option Span
  | [] => none
  | report :: rest =>
    match deepestOf rest with
    | some found =>
      if report.deepest.start.offset ≤ found.start.offset then some found else some report.deepest
    | none => some report.deepest
end

mutual
def draw (margin : String) (last : Bool) : Report → String
  | node message _ context children =>
    let label := match context with
      | some name => message ++ " (in " ++ name ++ ")"
      | none => message
    margin ++ (if last then "`- " else "|- ") ++ label ++ "\n" ++
      drawAll (margin ++ (if last then "   " else "|  ")) children

def drawAll (margin : String) : List Report → String
  | [] => ""
  | report :: rest => draw margin rest.isEmpty report ++ drawAll margin rest
end

def tree (report : Report) : String :=
  report.draw "" true

def render (report : Report) (document : Document) : String :=
  let here := report.deepest.start
  "Error at " ++ here.describe ++ ":\n" ++ document.lineAt here.offset ++ "\n" ++
    String.ofList (List.replicate (here.column - 1) ' ') ++ "^\n" ++ report.tree

-- The rendered report, unless the caret stands too far to the right for a text to hold the blanks in front of it.
-- Places of a document never do; those given by hand may.
def render? (report : Report) (document : Document) : Option String :=
  if report.deepest.start.column - 1 < Limits.bytes then some (report.render document) else none

def headline (report : Report) : String :=
  "Error at " ++ report.span.start.describe ++ ": " ++ report.message

end Report

end ParseForest
