import ClusterUpgrade.Text.Blank
import ClusterUpgrade.Version.Semantic

/-!
Release ids. A release is known by a raw id such as `4.14.1`; the catalog looks it up under a
decorated id such as `openshift-v4.14.1-candidate`, with a product mark in front and, off the stable
track, a channel group behind.
-/

namespace ClusterUpgrade.Release

open Text

/-- The product mark in front of every catalog id. -/
def productMark : List Char := "openshift-v".toList

/-- The channel group whose catalog ids carry no suffix. -/
def defaultGroup : String := "stable"

/-- The release tracks that may stand at the end of an id. -/
def channelGroups : List String := ["stable", "fast", "candidate", "nightly", "eus"]

def dropMark (text : List Char) : List Char := (dropPrefix? productMark text).getD text

/-- Drops the first channel group that ends the text, with the hyphen before it. -/
def dropGroup (text : List Char) : List Char :=
  (channelGroups.findSome? fun group => dropSuffix? ('-' :: group.toList) text).getD text

/-- The raw id inside a decorated one. -/
def rawChars (text : List Char) : List Char := dropGroup (dropMark (trimChars text))

def rawId (id : String) : String := String.ofList (rawChars id.toList)

/-- Completes a core of two numbers by a patch number of zero. -/
def completePatch (id : List Char) : List Char :=
  let core := Version.core id
  if (splitOn '.' core).length = 2 then core ++ '.' :: '0' :: Version.suffix id else id

/-- The version that a release id names, whether decorated or not. -/
def version? (id : String) : Option Version :=
  Version.ofChars? (completePatch (rawChars id.toList))

/-- The id under which the catalog knows a raw id of a channel group. -/
def catalogId (rawId : String) (group : Option String) : String :=
  let undecorated := String.ofList productMark ++ rawId
  match group with
  | none => undecorated
  | some group =>
    if group = "" ∨ group = defaultGroup then undecorated else undecorated ++ "-" ++ group

end ClusterUpgrade.Release
