/-! What the parser objects to. -/

namespace ScriptLint.Syntax

inductive Issue where
  | expected (wanted found : String)
  | unexpectedToken
  | unterminatedString
  | unterminatedComment
  | unterminatedRegexp
  | invalidCharacter
  | invalidNumber
  | invalidEscape
  | invalidRegexp
  | noSemicolon
  | notAssignable
  | noCatch
  | noInitializer
  | noPatternInitializer
  | strayReturn
  | strayAwait
  | strayYield
  | unclosedElement (name : String)
  | elementNotAllowed
  | rawGreater
  | rawBrace
  | unaryPower
  | mixedCoalesce
  | escapedKeyword
  | reservedName
  | repeatedName
  | lineBreak
  | misplaced
  deriving DecidableEq, Repr

def Issue.message : Issue → String
  | expected wanted found => "Expected `" ++ wanted ++ "` but found `" ++ found ++ "`"
  | unexpectedToken => "Unexpected token"
  | unterminatedString => "Unterminated string"
  | unterminatedComment => "Unterminated multiline comment"
  | unterminatedRegexp => "Unterminated regular expression"
  | invalidCharacter => "Invalid Character"
  | invalidNumber => "Invalid Number"
  | invalidEscape => "Invalid escape sequence"
  | invalidRegexp => "Invalid regular expression"
  | noSemicolon => "Expected a semicolon or an implicit semicolon after a statement, but found none"
  | notAssignable => "Cannot assign to this expression"
  | noCatch => "Missing catch or finally clause"
  | noInitializer => "Missing initializer in const declaration"
  | noPatternInitializer => "Missing initializer in destructuring declaration"
  | strayReturn => "A 'return' statement can only be used within a function body."
  | strayAwait => "`await` is only allowed within async functions and at the top levels of modules"
  | strayYield => "A 'yield' expression is only allowed in a generator body."
  | unclosedElement name => "Expected corresponding JSX closing tag for '" ++ name ++ "'."
  | elementNotAllowed => "Unexpected JSX expression"
  | rawGreater => "Unexpected token. Did you mean `\x7b'>'\x7d` or `&gt;`?"
  | rawBrace => "Unexpected token. Did you mean `\x7b'\x7d'\x7d` or `&rbrace;`?"
  | unaryPower => "Unexpected exponentiation expression"
  | mixedCoalesce => "Logical expressions and coalesce expressions cannot be mixed"
  | escapedKeyword => "Keywords cannot contain escape characters"
  | reservedName => "The keyword cannot be used as a name here"
  | repeatedName => "The name is given more than once"
  | lineBreak => "A line break is not allowed here"
  | misplaced => "The form is not allowed here"

end ScriptLint.Syntax
