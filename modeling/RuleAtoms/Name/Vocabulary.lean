/-
**Standard namespaces.**
-/

namespace RuleAtoms.Vocabulary

def rdf : String := "http://www.w3.org/1999/02/22-rdf-syntax-ns#"

def rdfs : String := "http://www.w3.org/2000/01/rdf-schema#"

/-- The datatypes of XML Schema. -/
def xsd : String := "http://www.w3.org/2001/XMLSchema#"

def owl : String := "http://www.w3.org/2002/07/owl#"

/-- The vocabulary of rules. -/
def swrl : String := "http://www.w3.org/2003/11/swrl#"

/-- The built-in predicates of rules. -/
def swrlb : String := "http://www.w3.org/2003/11/swrlb#"

/-- Where the variables of a rule live in markup, unless settings say otherwise. -/
def variableSpace : String := "urn:swrl#"

end RuleAtoms.Vocabulary
