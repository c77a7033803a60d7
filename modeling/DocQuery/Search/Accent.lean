/-!
# Accents of Latin letters

The base letter of the accented Latin letters that a search treats as equal to it.  Letters outside
the table, decomposed accents among them, stand for themselves.
-/

namespace DocQuery.Search

/-- Base letters and the accented letters that fold to them. -/
def accents : List (Char × String) := [
  ('a', "àáâãäåāăą"), ('A', "ÀÁÂÃÄÅĀĂĄ"), ('c', "çćč"), ('C', "ÇĆČ"), ('d', "ďđ"), ('D', "ĎĐ"),
  ('e', "èéêëēėęě"), ('E', "ÈÉÊËĒĖĘĚ"), ('i', "ìíîïīį"), ('I', "ÌÍÎÏĪĮ"), ('l', "ł"), ('L', "Ł"),
  ('n', "ñńň"), ('N', "ÑŃŇ"), ('o', "òóôõöøōő"), ('O', "ÒÓÔÕÖØŌŐ"), ('r', "ř"), ('R', "Ř"),
  ('s', "śšş"), ('S', "ŚŠŞ"), ('t', "ťţ"), ('T', "ŤŢ"), ('u', "ùúûüūůűų"), ('U', "ÙÚÛÜŪŮŰŲ"),
  ('y', "ýÿ"), ('Y', "ÝŸ"), ('z', "źżž"), ('Z', "ŹŻŽ")]

/-- The base letter of a character. -/
def withoutAccent (c : Char) : Char :=
  if c.toNat < 128 then c
  else ((accents.find? fun entry => entry.2.toList.contains c).map Prod.fst).getD c

end DocQuery.Search
