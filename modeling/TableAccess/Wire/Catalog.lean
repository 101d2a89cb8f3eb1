import TableAccess.Text.Split
import TableAccess.Wire.SqlType

/-!
The types that every server has, by name: scalars, texts, their arrays, vectors, and types that
travel as texts.
-/

set_option autoImplicit false
set_option relaxedAutoImplicit false

namespace TableAccess.Wire

/-- The scalar types, each with the number of its array type. -/
def scalarEntries : List (Scalar × Nat) :=
  [(.bool, 1000), (.char, 1002), (.int2, 1005), (.int4, 1007), (.int8, 1016), (.oid, 1028),
    (.float4, 1021), (.float8, 1022), (.numeric, 1231), (.bytea, 1001), (.date, 1182),
    (.time, 1183), (.timetz, 1270), (.timestamp, 1115), (.timestamptz, 1185), (.interval, 1187),
    (.uuid, 2951)]

/-- The text types, each with its number and that of its array type. -/
def textEntries : List (String × Nat × Nat) :=
  [("varchar", 1043, 1015), ("text", 25, 1009), ("name", 19, 1003), ("bpchar", 1042, 1014),
    ("json", 114, 199), ("xml", 142, 143)]

/-- Other types that have array types, each with its number and that of its array type. -/
def otherEntries : List (String × Nat × Nat) :=
  [("regproc", 24, 1008), ("tid", 27, 1010), ("xid", 28, 1011), ("cid", 29, 1012),
    ("point", 600, 1017), ("lseg", 601, 1018), ("path", 602, 1019), ("box", 603, 1020),
    ("polygon", 604, 1027), ("line", 628, 629), ("cidr", 650, 651), ("circle", 718, 719),
    ("macaddr8", 774, 775), ("money", 790, 791), ("macaddr", 829, 1040), ("inet", 869, 1041),
    ("aclitem", 1033, 1034), ("bit", 1560, 1561), ("varbit", 1562, 1563),
    ("refcursor", 1790, 2201), ("regprocedure", 2202, 2207), ("regoper", 2203, 2208),
    ("regoperator", 2204, 2209), ("regclass", 2205, 2210), ("regtype", 2206, 2211),
    ("record", 2249, 2287), ("cstring", 2275, 1263), ("txid_snapshot", 2970, 2949),
    ("pg_lsn", 3220, 3221), ("tsvector", 3614, 3643), ("tsquery", 3615, 3645),
    ("gtsvector", 3642, 3644), ("regconfig", 3734, 3735), ("regdictionary", 3769, 3770),
    ("jsonb", 3802, 3807), ("int4range", 3904, 3905), ("numrange", 3906, 3907),
    ("tsrange", 3908, 3909), ("tstzrange", 3910, 3911), ("daterange", 3912, 3913),
    ("int8range", 3926, 3927), ("jsonpath", 4072, 4073), ("regnamespace", 4089, 4090),
    ("regrole", 4096, 4097), ("regcollation", 4191, 4192), ("int4multirange", 4451, 6150),
    ("nummultirange", 4532, 6151), ("tsmultirange", 4533, 6152), ("tstzmultirange", 4534, 6153),
    ("datemultirange", 4535, 6155), ("int8multirange", 4536, 6157), ("pg_snapshot", 5038, 5039),
    ("xid8", 5069, 271)]

/-- Types without an array type. -/
def singleEntries : List (String × Nat) :=
  [("pg_ddl_command", 32), ("pg_node_tree", 194), ("table_am_handler", 269),
    ("index_am_handler", 325), ("unknown", 705), ("any", 2276), ("anyarray", 2277),
    ("void", 2278), ("trigger", 2279), ("language_handler", 2280), ("internal", 2281),
    ("anyelement", 2283), ("anynonarray", 2776), ("fdw_handler", 3115), ("tsm_handler", 3310),
    ("pg_ndistinct", 3361), ("pg_dependencies", 3402), ("anyenum", 3500), ("anyrange", 3831),
    ("event_trigger", 3838), ("anymultirange", 4537), ("anycompatiblemultirange", 4538),
    ("pg_brin_bloom_summary", 4600), ("pg_brin_minmax_multi_summary", 4601),
    ("pg_mcv_list", 5017), ("anycompatible", 5077), ("anycompatiblearray", 5078),
    ("anycompatiblenonarray", 5079), ("anycompatiblerange", 5080)]

/-- The elements of vectors and of their arrays: a vector counts its elements from zero. -/
def vectorEntries : List (String × Nat × Nat × Scalar) :=
  [("int2vector", 22, 1006, .int2), ("oidvector", 30, 1013, .oid)]

def SqlType.arrayOf (t : SqlType) (oid : Nat) : SqlType :=
  .array (.builtin ("_" ++ t.label.name) oid) 1 t

def withArray (t : SqlType) (arrayOid : Nat) : List SqlType := [t, t.arrayOf arrayOid]

/-- All types that every server has. -/
def catalog : List SqlType :=
  scalarEntries.flatMap (fun (s, a) => withArray (.scalar s) a) ++
    textEntries.flatMap (fun (name, n, a) => withArray (.text (.builtin name n)) a) ++
    otherEntries.flatMap (fun (name, n, a) => withArray (.other (.builtin name n)) a) ++
    singleEntries.map (fun (name, n) => .other (.builtin name n)) ++
    vectorEntries.flatMap fun (name, n, a, s) =>
      withArray (.array (.builtin name n) 0 (.scalar s)) a

def SqlType.named? (name : String) : Option SqlType :=
  catalog.find? fun t => t.label.name == name

/-! ### Constants -/

/-- A text without another one at its end, when it ends so. -/
def dropEnd? (ending : String) (s : List Char) : Option (List Char) :=
  (Text.dropLead? ending.toList.reverse s.reverse).map List.reverse

/-- The name of a range, multirange or vector type, whose last word is joined to those before. -/
def joinLast (s : List Char) : List Char :=
  match dropEnd? "_range" s, dropEnd? "_vector" s with
  | some stem, _ => stem ++ "range".toList
  | _, some stem => stem ++ "vector".toList
  | none, none => s

/-- The name of the type of a constant: constants are in upper case, and those of array types
end in a word of their own. -/
def nameOfConstant (constant : String) : String :=
  let s := constant.toList.map Char.toLower
  match dropEnd? "_array" s with
  | some stem => String.ofList ('_' :: joinLast stem)
  | none => String.ofList (joinLast s)

def SqlType.ofConstant? (constant : String) : Option SqlType :=
  SqlType.named? (nameOfConstant constant)

end TableAccess.Wire
