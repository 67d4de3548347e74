import CodeAtlas.Workload.Shape

/-!
# Sample declarations

For each language a group of declarations that shows most kinds of them: with and without documentation, inside and
outside of each other, with bases, parameters, results and calls.

## Main definitions

* `python`, `script`, `go`, `rust`, `java`, `cFamily`, `csharp`, `php`, `ruby`: the sample of each language.
-/

namespace CodeAtlas.Workload

/-! ## Python -/

/-- A string that stands as a statement. -/
def pythonDoc (text : String) : Tree :=
  part "expression_statement" [word "string" text]

/-- A method that calls a function. -/
def pythonMethod (p : Place) : Tree :=
  p.item "function_definition"
    [word "def" "def", word "identifier" "inner", word "parameters" "(self)",
      part "block" [pythonDoc "'d'", part "call" [word "identifier" "compute"]]]

/-- A function, and a class with a method and a class. -/
def python : Shape where
  root := "module"
  rows := 6
  items p :=
    [p.item "function_definition"
        [word "async" "async", word "identifier" (p.name "fn"), word "parameters" "(a, b)", word "type" "int",
          part "block"
            [pythonDoc "\"\"\"doc text\"\"\"", part "call" [word "identifier" "helper"],
              part "call" [part "attribute" [word "identifier" "method"]]]],
      p.item "class_definition"
        [word "identifier" (p.name "Cls"),
          part "argument_list"
            [word "identifier" "Base", word "attribute" "pkg.Mixin", word "subscript" "Generic[T]"],
          part "block"
            [pythonDoc "\"\"\"C\"\"\"", pythonMethod p,
              p.item "class_definition" [word "identifier" "Inner", part "block" [pythonMethod p]]]]]

/-! ## JavaScript and TypeScript -/

/-- A documentation comment with a tag. -/
def scriptDoc : Tree :=
  word "comment" "/** Does a thing.\n * more\n * @param x */"

/-- A block that calls a function and a method. -/
def scriptBlock : Tree :=
  part "statement_block"
    [part "call_expression" [word "identifier" "helper"],
      part "call_expression" [part "member_expression" [word "property_identifier" "method"]]]

/-- Functions in all their forms, a class, an interface and an alias. -/
def script : Shape where
  root := "program"
  rows := 8
  items p :=
    [scriptDoc,
      p.item "function_declaration"
        [word "async" "async", word "identifier" (p.name "fn"), word "formal_parameters" "(a, b)", scriptBlock],
      p.item "generator_function_declaration"
        [word "identifier" (p.name "gen"), word "formal_parameters" "()", scriptBlock],
      p.item "lexical_declaration"
        [part "variable_declarator"
          [word "identifier" (p.name "arrow"),
            part "arrow_function"
              [word "async" "async", word "identifier" "x",
                part "call_expression" [word "identifier" "axHelper"]]]],
      p.item "variable_declaration"
        [part "variable_declarator"
          [word "identifier" (p.name "vfn"),
            part "function_expression" [word "formal_parameters" "()", scriptBlock]]],
      scriptDoc,
      p.item "class_declaration"
        [word "identifier" (p.name "Cls"),
          part "class_heritage"
            [part "extends_clause" [word "identifier" "Base"],
              part "implements_clause" [word "type_identifier" "IThing", word "identifier" "Other"]],
          part "class_body"
            [p.item "method_definition"
                [word "static" "static", word "async" "async", word "*" "*", word "property_identifier" "doWork",
                  word "formal_parameters" "(x)", scriptBlock],
              p.item "public_field_definition"
                [word "property_identifier" "handler",
                  part "arrow_function" [word "formal_parameters" "(e)", scriptBlock]]]],
      part "export_statement"
        [p.item "interface_declaration"
          [word "type_identifier" (p.name "IFace"),
            part "extends_type_clause" [word "type_identifier" "IBase"]]],
      p.item "type_alias_declaration" [word "type_identifier" (p.name "Alias")]]

/-! ## Go -/

/-- A block that calls a function and a method. -/
def goBlock : Tree :=
  part "block"
    [part "call_expression" [word "identifier" "helper"],
      part "call_expression" [part "selector_expression" [word "field_identifier" "Method"]]]

/-- A function, a method, a structure and an interface. -/
def go : Shape where
  root := "source_file"
  rows := 6
  items p :=
    [word "comment" "// Top doc", word "comment" "/* block doc */",
      p.item "function_declaration"
        [word "identifier" (p.name "Fn"), word "parameter_list" "(a int)", word "type_identifier" "error", goBlock],
      p.item "method_declaration"
        [spelled "parameter_list" "(s *Server)"
            [part "parameter_declaration" [part "pointer_type" [word "type_identifier" "Server"]]],
          word "field_identifier" (p.name "Do"), word "parameter_list" "(x int)", word "type_identifier" "int", goBlock],
      part "type_declaration"
        [p.item "type_spec" [word "type_identifier" (p.name "S"), part "struct_type" []],
          p.item "type_spec" [word "type_identifier" (p.name "I"), part "interface_type" []]]]

/-! ## Rust -/

/-- A block that calls a function, a method and a function of a module. -/
def rustBlock : Tree :=
  part "block"
    [part "call_expression" [word "identifier" "helper"],
      part "call_expression" [part "field_expression" [word "field_identifier" "push"]],
      part "call_expression" [part "scoped_identifier" [word "identifier" "scoped"]]]

/-- A function, a structure, an enumeration, a trait, two implementations, and a module with a structure. -/
def rust : Shape where
  root := "source_file"
  rows := 8
  items p :=
    [word "line_comment" "/// Rust doc line", word "block_comment" "/** block\n * doc */",
      p.item "function_item"
        [word "visibility_modifier" "pub", word "async" "async", word "const" "const", word "unsafe" "unsafe",
          word "identifier" (p.name "fn"), word "parameters" "(a: i32)", word "return_type" "-> i32", rustBlock],
      p.item "struct_item" [word "type_identifier" (p.name "S")],
      p.item "enum_item" [word "type_identifier" (p.name "E")],
      p.item "trait_item"
        [word "type_identifier" (p.name "T"),
          part "declaration_list"
            [p.item "function_item" [word "identifier" "req", word "parameters" "()"],
              p.item "function_signature_item" [word "identifier" "sig", word "parameters" "()"]]],
      p.item "impl_item"
        [word "type_identifier" (p.name "T"), word "for" "for",
          part "generic_type" [word "type_identifier" (p.name "S")],
          part "declaration_list"
            [p.item "function_item" [word "identifier" "method", word "parameters" "(&self)", rustBlock]]],
      p.item "impl_item"
        [word "type_identifier" (p.name "S"),
          part "declaration_list" [p.item "function_item" [word "identifier" "new", word "parameters" "()"]]],
      part "mod_item"
        [part "declaration_list" [p.item "struct_item" [word "type_identifier" "Inner"]]]]

/-! ## Java -/

/-- A documentation comment with a tag. -/
def javaDoc : Tree :=
  word "block_comment" "/** Doc.\n * more\n * @param x */"

/-- The modifiers of a public declaration. -/
def javaPublic : Tree :=
  part "modifiers" [word "public" "public"]

/-- A block that calls a method. -/
def javaBlock : Tree :=
  part "block" [part "method_invocation" [word "identifier" "helper"]]

/-- A method that calls another one. -/
def javaMethod (p : Place) : Tree :=
  p.item "method_declaration"
    [javaPublic, word "void_type" "void", word "identifier" "run", word "formal_parameters" "(int x)", javaBlock]

/-- A class with members of all kinds, an interface, an enumeration and a record. -/
def java : Shape where
  root := "program"
  rows := 10
  items p :=
    [javaDoc,
      p.item "class_declaration"
        [javaPublic, word "identifier" (p.name "Cls"), part "superclass" [word "type_identifier" "Base"],
          part "super_interfaces" [part "type_list" [word "type_identifier" "Runnable"]],
          part "class_body"
            [javaDoc, javaMethod p,
              p.item "constructor_declaration"
                [javaPublic, word "identifier" (p.name "Cls"), word "formal_parameters" "()", javaBlock],
              p.item "enum_declaration" [word "identifier" "Kind"],
              p.item "interface_declaration"
                [word "identifier" "Nested",
                  part "extends_interfaces" [part "type_list" [word "type_identifier" "Closeable"]],
                  part "interface_body" [javaMethod p]],
              p.item "class_declaration" [word "identifier" "Inner", part "class_body" []]]],
      p.item "interface_declaration"
        [word "identifier" (p.name "IFace"), part "extends_interfaces" [word "type_identifier" "Closeable"],
          part "interface_body" [javaMethod p]],
      p.item "enum_declaration" [word "identifier" (p.name "E")],
      p.item "record_declaration" [word "identifier" (p.name "R")]]

/-! ## C and C++ -/

/-- A block that calls a function and a method. -/
def cBlock : Tree :=
  part "compound_statement"
    [part "call_expression" [word "identifier" "helper"],
      part "call_expression" [part "field_expression" [word "field_identifier" "method"]]]

/-- A function with a declarator. -/
def cFunction (p : Place) (text : String) (declarator : Tree) : Tree :=
  p.spelledItem "function_definition" text [declarator, cBlock]

/-- A function with a plain name. -/
def cPlain (p : Place) : Tree :=
  cFunction p "int fn() \x7b\n helper(); \x7d" (part "function_declarator" [word "identifier" (p.name "fn")])

/-- A structure. -/
def cStruct (p : Place) : Tree :=
  p.item "struct_specifier" [word "type_identifier" (p.name "S")]

/-- Functions with several kinds of declarators, types, a class, a namespace with a template, and a conditional
declaration. -/
def cFamily : Shape where
  root := "translation_unit"
  rows := 8
  items p :=
    [word "comment" "/// doxygen line", word "comment" "/** block\n * doc */", cPlain p,
      cFunction p "void A::m() \x7b x(); \x7d" (part "function_declarator" [word "qualified_identifier" "A::m"]),
      cFunction p "int* g() \x7b return p; \x7d"
        (part "pointer_declarator" [part "function_declarator" [word "field_identifier" "g"]]),
      cStruct p,
      p.item "enum_specifier" [word "type_identifier" (p.name "E")],
      p.item "type_definition" [word "type_identifier" (p.name "Td")],
      p.item "class_specifier"
        [word "type_identifier" (p.name "Cls"), part "base_class_clause" [word "type_identifier" "Base"],
          part "field_declaration_list"
            [cFunction p "void m() \x7b x(); \x7d" (part "function_declarator" [word "destructor_name" "~Cls"]),
              word "access_specifier" "public", part "field_declaration" []]],
      part "namespace_definition"
        [part "declaration_list" [part "template_declaration" [cPlain p]]],
      part "preproc_ifdef" [part "declaration" [cStruct p]]]

/-! ## C# -/

/-- A documentation comment with a summary. -/
def csharpDoc : Tree :=
  word "comment" "/// <summary>Does stuff</summary>"

/-- The modifier of a public declaration. -/
def csharpPublic : Tree :=
  word "modifier" "public"

/-- A block that calls a method. -/
def csharpBlock : Tree :=
  part "block"
    [part "invocation_expression"
      [word "identifier" "Helper", part "member_access_expression" [word "identifier" "Method"]]]

/-- A method that calls another one. -/
def csharpMethod (p : Place) : Tree :=
  p.item "method_declaration"
    [csharpPublic, word "predefined_type" "void", word "identifier" "Run", word "parameter_list" "(int x)", csharpBlock]

/-- Some members. -/
def csharpMembers (members : List Tree) : Tree :=
  part "declaration_list" members

/-- An enumeration. -/
def csharpEnum (p : Place) : Tree :=
  p.item "enum_declaration" [csharpPublic, word "identifier" (p.name "E")]

/-- A namespace with a class that has members of all kinds, an interface, a structure, an enumeration and a record. -/
def csharp : Shape where
  root := "compilation_unit"
  rows := 10
  items p :=
    [csharpDoc,
      part "namespace_declaration"
        [csharpMembers
          [p.item "class_declaration"
              [csharpPublic, word "identifier" (p.name "Cls"),
                part "base_list" [word "identifier" "Base", word "generic_name" "IList<int>"],
                csharpMembers
                  [csharpDoc, csharpMethod p,
                    p.item "constructor_declaration"
                      [csharpPublic, word "identifier" (p.name "Cls"), word "parameter_list" "()", csharpBlock],
                    p.item "property_declaration"
                      [csharpPublic, word "predefined_type" "int", word "identifier" "Value"],
                    p.item "struct_declaration" [word "identifier" "Point", csharpMembers [csharpMethod p]],
                    p.item "interface_declaration"
                      [word "identifier" "INested", part "base_list" [word "identifier" "IDisposable"],
                        csharpMembers [csharpMethod p]],
                    p.item "class_declaration" [word "identifier" "Inner", csharpMembers []]]],
            p.item "interface_declaration"
              [csharpPublic, word "identifier" (p.name "IFace"), part "base_list" [word "qualified_name" "Ns.IThing"],
                csharpMembers [csharpMethod p]],
            p.item "struct_declaration" [word "identifier" (p.name "St"), csharpMembers [csharpMethod p]],
            csharpEnum p,
            p.item "record_declaration"
              [csharpPublic, word "identifier" (p.name "Rec"), part "base_list" [word "identifier" "Base"],
                csharpMembers [csharpMethod p]]]],
      part "file_scoped_namespace_declaration" [csharpEnum p]]

/-! ## PHP -/

/-- A documentation comment with a tag. -/
def phpDoc : Tree :=
  word "comment" "/** Summary.\n * @param x */"

/-- A block that calls a function, a method and a method of a class. -/
def phpBlock : Tree :=
  part "compound_statement"
    [part "function_call_expression" [word "name" "helper"], part "member_call_expression" [word "name" "method"],
      part "scoped_call_expression" [word "name" "create"]]

/-- A function. -/
def phpFunction (p : Place) : Tree :=
  p.item "function_definition"
    [word "name" (p.name "fn"), word "formal_parameters" "($a, $b)", word "primitive_type" "int", phpBlock]

/-- A method. -/
def phpMethod (p : Place) : Tree :=
  p.item "method_declaration"
    [word "visibility_modifier" "public", word "static_modifier" "static", word "name" "run",
      word "formal_parameters" "($x)", word "named_type" "void", phpBlock]

/-- A function, a class, an interface, a trait, an enumeration, and a namespace with a function. -/
def php : Shape where
  root := "program"
  rows := 8
  items p :=
    [phpDoc, phpFunction p,
      p.item "class_declaration"
        [word "abstract_modifier" "abstract", word "name" (p.name "Cls"),
          part "base_clause" [word "name" "Base", word "qualified_name" "Ns\\Thing"],
          part "class_interface_clause" [word "name" "Countable", word "qualified_name" "Ns\\IFace"],
          part "declaration_list"
            [phpDoc, phpMethod p,
              p.item "method_declaration"
                [word "visibility_modifier" "public", word "name" "__construct", word "formal_parameters" "()",
                  phpBlock]]],
      p.item "interface_declaration"
        [word "name" (p.name "IFace"), part "base_clause" [word "name" "IBase"],
          part "declaration_list" [phpMethod p]],
      p.item "trait_declaration" [word "name" (p.name "Tr"), part "declaration_list" [phpMethod p]],
      p.item "enum_declaration" [word "name" (p.name "E")],
      part "namespace_definition" [part "compound_statement" [phpFunction p]]]

/-! ## Ruby -/

/-- A body that calls a method. -/
def rubyBody : Tree :=
  part "body_statement" [part "call" [word "identifier" "helper"]]

/-- A method. -/
def rubyMethod (p : Place) : Tree :=
  p.item "method" [word "identifier" (p.name "m"), word "method_parameters" "(a, b)", rubyBody]

/-- A method of the object itself. -/
def rubyOwnMethod (p : Place) : Tree :=
  p.item "singleton_method"
    [word "self" "self", word "identifier" (p.name "sm"), word "method_parameters" "(x)", rubyBody]

/-- Methods, classes, one of them with the class of the object itself, and a module. -/
def ruby : Shape where
  root := "program"
  rows := 6
  items p :=
    [word "comment" "# Ruby doc", rubyMethod p, rubyOwnMethod p,
      p.item "class"
        [word "constant" (p.name "Cls"), part "superclass" [word "constant" "Base"],
          part "body_statement"
            [word "comment" "# Ruby doc", rubyMethod p, rubyOwnMethod p,
              part "singleton_class" [part "body_statement" [rubyMethod p]]]],
      p.item "class"
        [word "scope_resolution" "Ns::Other", part "superclass" [word "scope_resolution" "Ns::Base"],
          part "body_statement" [rubyMethod p]],
      p.item "module" [word "constant" (p.name "Mod"), part "body_statement" [rubyMethod p]]]

end CodeAtlas.Workload
