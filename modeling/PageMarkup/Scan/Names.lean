import PageMarkup.Text.Basic

/-!
# Names that the scan knows

The tags whose content is not markup, those whose content is, the tags of the page itself, the schemes of
addresses, and the functions that are called without a number sign.
-/
namespace PageMarkup.Scan

/-- Extension tags whose content is read as markup. -/
def openTags : List Text :=
  (["categorytree", "gallery", "imagemap", "includeonly", "indicator", "inputbox", "noinclude", "onlyinclude",
   "poem", "ref", "references", "section"]).map String.toList

/-- Extension tags whose content is left as it is. -/
def closedTags : List Text :=
  (["ce", "charinsert", "chem", "graph", "hiero", "languages", "mapframe", "maplink", "math", "nowiki",
   "pagelist", "pagequality", "pages", "pre", "score", "source", "syntaxhighlight", "templatedata",
   "templatestyles", "timeline"]).map String.toList

/-- Tags that only shape the page. -/
def htmlTags : List Text :=
  (["abbr", "b", "bdi", "bdo", "big", "blockquote", "br", "caption", "center", "cite", "code", "data", "dd",
   "del", "dfn", "div", "dl", "dt", "em", "font", "h1", "h2", "h3", "h4", "h5", "h6", "hr", "i", "ins", "kbd",
   "li", "mark", "ol", "p", "q", "rb", "rp", "rt", "rtc", "ruby", "s", "samp", "small", "span", "strike",
   "strong", "sub", "sup", "table", "td", "th", "time", "tr", "tt", "u", "ul", "var", "wbr"]).map String.toList

/-- The beginnings of addresses outside of the wiki. -/
def urlSchemes : List Text :=
  (["bitcoin:", "ftp://", "ftps://", "geo:", "git://", "gopher://", "http://", "https://", "irc://", "ircs://",
   "magnet:", "mailto:", "mms://", "news:", "nntp://", "redis://", "sftp://", "sip:", "sips:", "sms:", "ssh://",
   "svn://", "tel:", "telnet://", "urn:", "worldwind://", "xmpp:"]).map String.toList

/-- Functions that are called by their bare names. -/
def functionNames : List Text :=
  (["ARTICLEPAGENAME", "ARTICLEPAGENAMEE", "ARTICLESPACE", "ARTICLESPACEE", "BASEPAGENAME", "BASEPAGENAMEE",
   "CASCADINGSOURCES", "CONTENTLANG", "CONTENTLANGUAGE", "CURRENTDAY", "CURRENTDAY2", "CURRENTDAYNAME",
   "CURRENTDOW", "CURRENTHOUR", "CURRENTMONTH", "CURRENTMONTH1", "CURRENTMONTHABBREV", "CURRENTMONTHNAME",
   "CURRENTMONTHNAMEGEN", "CURRENTTIME", "CURRENTTIMESTAMP", "CURRENTVERSION", "CURRENTWEEK", "CURRENTYEAR",
   "DEFAULTCATEGORYSORT", "DEFAULTSORT", "DEFAULTSORTKEY", "DIRECTIONMARK", "DIRMARK", "DISPLAYTITLE",
   "FULLPAGENAME", "FULLPAGENAMEE", "LOCALDAY", "LOCALDAY2", "LOCALDAYNAME", "LOCALDOW", "LOCALHOUR",
   "LOCALMONTH", "LOCALMONTH1", "LOCALMONTHABBREV", "LOCALMONTHNAME", "LOCALMONTHNAMEGEN", "LOCALTIME",
   "LOCALTIMESTAMP", "LOCALWEEK", "LOCALYEAR", "NAMESPACE", "NAMESPACEE", "NAMESPACENUMBER", "NUMBERINGROUP",
   "NUMBEROFACTIVEUSERS", "NUMBEROFADMINS", "NUMBEROFARTICLES", "NUMBEROFEDITS", "NUMBEROFFILES",
   "NUMBEROFPAGES", "NUMBEROFUSERS", "NUMBEROFVIEWS", "NUMINGROUP", "PAGEID", "PAGELANGUAGE", "PAGENAME",
   "PAGENAMEE", "PAGESINCAT", "PAGESINCATEGORY", "PAGESINNAMESPACE", "PAGESINNS", "PAGESIZE",
   "PROTECTIONEXPIRY", "PROTECTIONLEVEL", "REVISIONDAY", "REVISIONDAY2", "REVISIONID", "REVISIONMONTH",
   "REVISIONMONTH1", "REVISIONTIMESTAMP", "REVISIONUSER", "REVISIONYEAR", "ROOTPAGENAME", "ROOTPAGENAMEE",
   "SCRIPTPATH", "SERVER", "SERVERNAME", "SITENAME", "STYLEPATH", "SUBJECTPAGENAME", "SUBJECTPAGENAMEE",
   "SUBJECTSPACE", "SUBJECTSPACEE", "SUBPAGENAME", "SUBPAGENAMEE", "TALKPAGENAME", "TALKPAGENAMEE", "TALKSPACE",
   "TALKSPACEE", "anchorencode", "canonicalurl", "filepath", "formatnum", "fullurl", "gender", "grammar", "int",
   "lc", "lcfirst", "localurl", "msg", "msgnw", "ns", "nse", "padleft", "padright", "plural", "raw",
   "safesubst", "subst", "uc", "ucfirst", "urlencode"]).map String.toList

end PageMarkup.Scan
